/-
Greek letters, sorted by their base letter and by the marks they carry.
-/
import MessageCatalog.Text.CodeSet

namespace MessageCatalog.Text

/-- Greek letters with and without marks, small capitals and letters set
above or below the line among them. -/
def greekLetter : CodeSet where
  bounds := [
    0x370, 0x374, 0x376, 0x378, 0x37a, 0x37e, 0x37f, 0x380, 0x386, 0x387, 0x388, 0x38b, 0x38c,
    0x38d, 0x38e, 0x3a2, 0x3a3, 0x3e2, 0x3f0, 0x3f6, 0x3f7, 0x400, 0x1d26, 0x1d2b, 0x1d5d, 0x1d62,
    0x1d66, 0x1d6b, 0x1dbf, 0x1dc0, 0x1f00, 0x1f16, 0x1f18, 0x1f1e, 0x1f20, 0x1f46, 0x1f48,
    0x1f4e, 0x1f50, 0x1f58, 0x1f59, 0x1f5a, 0x1f5b, 0x1f5c, 0x1f5d, 0x1f5e, 0x1f5f, 0x1f7e,
    0x1f80, 0x1fb5, 0x1fb6, 0x1fbd, 0x1fbe, 0x1fbf, 0x1fc2, 0x1fc5, 0x1fc6, 0x1fcd, 0x1fd0,
    0x1fd4, 0x1fd6, 0x1fdc, 0x1fe0, 0x1fed, 0x1ff2, 0x1ff5, 0x1ff6, 0x1ffd, 0x2126, 0x2127,
    0xab65, 0xab66]

/-- The vowel alpha with any marks. -/
def greekAlpha : CodeSet where
  bounds := [
    0x386, 0x387, 0x391, 0x392, 0x3ac, 0x3ad, 0x3b1, 0x3b2, 0x1f00, 0x1f10, 0x1f70, 0x1f72,
    0x1f80, 0x1f90, 0x1fb0, 0x1fb5, 0x1fb6, 0x1fbd]

/-- The vowel epsilon with any marks. -/
def greekEpsilon : CodeSet where
  bounds := [
    0x388, 0x389, 0x395, 0x396, 0x3ad, 0x3ae, 0x3b5, 0x3b6, 0x3f5, 0x3f6, 0x1f10, 0x1f16, 0x1f18,
    0x1f1e, 0x1f72, 0x1f74, 0x1fc8, 0x1fca]

/-- The vowel eta with any marks. -/
def greekEta : CodeSet where
  bounds := [
    0x389, 0x38a, 0x397, 0x398, 0x3ae, 0x3af, 0x3b7, 0x3b8, 0x1f20, 0x1f30, 0x1f74, 0x1f76,
    0x1f90, 0x1fa0, 0x1fc2, 0x1fc5, 0x1fc6, 0x1fc8, 0x1fca, 0x1fcd]

/-- The vowel iota with any marks. -/
def greekIota : CodeSet where
  bounds := [
    0x38a, 0x38b, 0x390, 0x391, 0x399, 0x39a, 0x3aa, 0x3ab, 0x3af, 0x3b0, 0x3b9, 0x3ba, 0x3ca,
    0x3cb, 0x1f30, 0x1f40, 0x1f76, 0x1f78, 0x1fbe, 0x1fbf, 0x1fd0, 0x1fd4, 0x1fd6, 0x1fdc]

/-- The vowel omicron with any marks. -/
def greekOmicron : CodeSet where
  bounds := [
    0x38c, 0x38d, 0x39f, 0x3a0, 0x3bf, 0x3c0, 0x3cc, 0x3cd, 0x1f40, 0x1f46, 0x1f48, 0x1f4e,
    0x1f78, 0x1f7a, 0x1ff8, 0x1ffa]

/-- The vowel upsilon with any marks. -/
def greekUpsilon : CodeSet where
  bounds := [
    0x38e, 0x38f, 0x3a5, 0x3a6, 0x3ab, 0x3ac, 0x3b0, 0x3b1, 0x3c5, 0x3c6, 0x3cb, 0x3cc, 0x3cd,
    0x3ce, 0x1f50, 0x1f58, 0x1f59, 0x1f5a, 0x1f5b, 0x1f5c, 0x1f5d, 0x1f5e, 0x1f5f, 0x1f60, 0x1f7a,
    0x1f7c, 0x1fe0, 0x1fe4, 0x1fe6, 0x1fec]

/-- The vowel upsilon with a hook, with any marks. -/
def greekHookedUpsilon : CodeSet where
  bounds := [
    0x3d2, 0x3d5]

/-- The vowel omega with any marks. -/
def greekOmega : CodeSet where
  bounds := [
    0x38f, 0x390, 0x3a9, 0x3aa, 0x3c9, 0x3ca, 0x3ce, 0x3cf, 0x1f60, 0x1f70, 0x1f7c, 0x1f7e,
    0x1fa0, 0x1fb0, 0x1ff2, 0x1ff5, 0x1ff6, 0x1ff8, 0x1ffa, 0x1ffd, 0x2126, 0x2127]

/-- The letter rho with any marks. -/
def greekRho : CodeSet where
  bounds := [
    0x3a1, 0x3a2, 0x3c1, 0x3c2, 0x3f1, 0x3f2, 0x1fe4, 0x1fe6, 0x1fec, 0x1fed]

/-- Letters that carry an accent. -/
def greekAccented : CodeSet where
  bounds := [
    0x386, 0x387, 0x388, 0x38b, 0x38c, 0x38d, 0x38e, 0x391, 0x3ac, 0x3b1, 0x3cc, 0x3cf, 0x3d3,
    0x3d4, 0x1f02, 0x1f08, 0x1f0a, 0x1f10, 0x1f12, 0x1f16, 0x1f1a, 0x1f1e, 0x1f22, 0x1f28, 0x1f2a,
    0x1f30, 0x1f32, 0x1f38, 0x1f3a, 0x1f40, 0x1f42, 0x1f46, 0x1f4a, 0x1f4e, 0x1f52, 0x1f58,
    0x1f5b, 0x1f5c, 0x1f5d, 0x1f5e, 0x1f5f, 0x1f60, 0x1f62, 0x1f68, 0x1f6a, 0x1f7e, 0x1f82,
    0x1f88, 0x1f8a, 0x1f90, 0x1f92, 0x1f98, 0x1f9a, 0x1fa0, 0x1fa2, 0x1fa8, 0x1faa, 0x1fb0,
    0x1fb2, 0x1fb3, 0x1fb4, 0x1fb5, 0x1fb6, 0x1fb8, 0x1fba, 0x1fbc, 0x1fc2, 0x1fc3, 0x1fc4,
    0x1fc5, 0x1fc6, 0x1fcc, 0x1fd2, 0x1fd4, 0x1fd6, 0x1fd8, 0x1fda, 0x1fdc, 0x1fe2, 0x1fe4,
    0x1fe6, 0x1fe8, 0x1fea, 0x1fec, 0x1ff2, 0x1ff3, 0x1ff4, 0x1ff5, 0x1ff6, 0x1ffc]

/-- Letters that carry a dialytika. -/
def greekDialytika : CodeSet where
  bounds := [
    0x390, 0x391, 0x3aa, 0x3ac, 0x3b0, 0x3b1, 0x3ca, 0x3cc, 0x3d4, 0x3d5, 0x1fd2, 0x1fd4, 0x1fd7,
    0x1fd8, 0x1fe2, 0x1fe4, 0x1fe7, 0x1fe8]

/-- Letters that carry a iota below. -/
def greekYpogegrammeni : CodeSet where
  bounds := [
    0x1f80, 0x1fb0, 0x1fb2, 0x1fb5, 0x1fb7, 0x1fb8, 0x1fbc, 0x1fbd, 0x1fc2, 0x1fc5, 0x1fc7,
    0x1fc8, 0x1fcc, 0x1fcd, 0x1ff2, 0x1ff5, 0x1ff7, 0x1ff8, 0x1ffc, 0x1ffd]

end MessageCatalog.Text
