/-
Printing a resource and reading it again.

A resource with dictionaries in order whose numbers are read back comes
back from its text as it was, unless it binds a value that has the shape
of an element (`Resource.printed_reads_back`).

A resource that was read from a text can always be read again, but need
not be the same: an object with a repeated name is no record, so it is
bound as a value, and of the values under the repeated name only the last
is kept. What is printed then has the name once and can be a record. The
resource comes back exactly if none of its values turned into an element
this way (`Resource.reencoded_same_iff`), and so whenever its entries were
written without repeated names (`Resource.reencoded_same_of_unrepeated`).
-/
import MessageCatalog.Catalog
import MessageCatalog.Proofs.Wire.Repeated
import MessageCatalog.Proofs.Wire.Resource

namespace MessageCatalog

open Json

namespace Resource

/-- The wire format loses nothing: a resource comes back from its text as
it was, if its numbers are finite, printed numbers are read as the same
numbers, it is nested within the limit, and no reference binds a value
that is read as an element. -/
theorem printed_reads_back {r : Resource} (hordered : r.Ordered)
    (hfinite : r.toJson.EveryNumber fun x => Decimal.isFinite x)
    (hnumbers : r.toJson.EveryNumber fun x => Decimal.isFinite x → ReadsBack x)
    (hnesting : r.toJson.nesting ≤ maxNesting)
    (hplain : ∀ q ∈ r.messages, q.2.EveryReference .PlainValues) :
    ofText (compact r.toJson) = .ok r := by
  rw [ofText_compact hordered hnesting (hnumbers.mp hfinite), (reread_eq_iff hordered).mpr hplain]

/-- A stall with a group, a selection, a call and a reference that binds
elements and a value. -/
def stall : Resource :=
  let named (name : String) : Element := .variable [.literal (.string name)]
  ⟨"stall", "en",
    [("cart", .group [
      ("full", .message (.select ⟨[⟨named "count", some (.number 1)⟩],
        [⟨[.number 1], [named "count", .literal (.string " item")]⟩]⟩)),
      ("price", .message (.pattern [.call "number" [named "price"]
        [("minimumFractionDigits", .number 2)], .literal (.boolean true)]))]),
    ("start", .message (.pattern [.message none [.literal (.string "cart"), named "part"]
      (some [("count", .element (.literal (.number 0.5))), ("owner", .element (named "name")),
        ("price", .value (.list [.number 12.5, .null, .map [("currency", .string "EUR")]]))])]))]⟩

theorem printed_reads_back_stall : ofText (compact stall.toJson) = .ok stall := by
  refine printed_reads_back ?_ (by decide +kernel) (by decide +kernel) (by decide +kernel) ?_
  · simp only [stall, Ordered, OrderedEntries, Entry.Ordered, Message.Ordered, Element.Ordered,
      Element.OrderedIn, Element.OrderedOf, Value.Ordered, Value.OrderedItems, Value.OrderedPairs,
      Dictionary.Ordered, List.forall_mem_singleton]
    decide
  · simp [stall, Resource.messages, messagesOfEntries, Entry.messages, Message.EveryReference,
      EveryReferenceIn, EveryReferenceOf, Element.EveryReference, OfReference.PlainValues]
    rfl

-- ============================================================ once more

/-- A resource that was read from a text, whatever its form, is printed to
a text that can be read. What is read is the same resource exactly if no
reference in it binds a value whose document is read as an element. -/
theorem reencoded_same_iff {text : String} {r : Resource} (h : ofText text = .ok r)
    (hnumbers : r.toJson.EveryNumber ReadsBack) :
    ofText (compact r.toJson) = .ok (r.mapMessages Message.reread) ∧
      (ofText (compact r.toJson) = .ok r
        ↔ ∀ q ∈ r.messages, q.2.EveryReference .PlainValues) := by
  obtain ⟨hordered, hnesting⟩ := settled_of_ofText h
  have hread := ofText_compact hordered hnesting hnumbers
  refine ⟨hread, ?_⟩
  rw [hread, Except.ok.injEq]
  exact reread_eq_iff hordered

theorem ok_of_toOption {α ε : Type} {x : Except ε α} {a : α} (h : x.toOption = some a) :
    x = .ok a := by
  cases x with
  | error => exact nomatch h
  | ok b =>
      cases h
      rfl

/-- A resource written with arrays for records, an entry of which is
repeated. -/
def terse : Json := .array [.string "res", .string "en", .object [
  ("start", .array [.array []]),
  ("start", .array [.array [.decimal 1.5, .array [.array [.string "name"]]]])]]

theorem reencoded_same_iff_terse : ∃ r, ofText (compact terse) = .ok r ∧
    ofText (compact r.toJson) = .ok (r.mapMessages Message.reread) := by
  have hread : (ofText (compact terse)).toOption.any
      (fun r => decide (r.toJson.EveryNumber ReadsBack)) = true := by
    decide +kernel
  obtain ⟨r, hr, hnumbers⟩ := (Option.any_eq_true ..).mp hread
  have h := ok_of_toOption hr
  exact ⟨r, h, (reencoded_same_iff h (of_decide_eq_true hnumbers)).1⟩

/-- A resource whose entries were written without repeated names comes
back. -/
theorem reencoded_same_of_unrepeated {id locale : String} {members : List (String × Json)}
    {entries : Dictionary Entry} (hentries : dictionary? Entry.ofJson? members = some entries)
    (hmembers : ∀ m ∈ members, m.2.Unrepeated)
    (hnesting : (Json.object (fields id locale members)).nesting ≤ maxNesting)
    (hnumbers : (Resource.mk id locale entries).toJson.EveryNumber ReadsBack) :
    ofText (compact (Resource.mk id locale entries).toJson) = .ok ⟨id, locale, entries⟩ := by
  have hsettled := settledEntries_of_dictionary? hentries fun m _ => Entry.settled m.2
  have hordered : (Resource.mk id locale entries).Ordered :=
    ⟨hsettled.1, orderedEntries_iff.mpr fun p hp => (hsettled.2 p hp).1⟩
  have hlt := hsettled.nesting
  have hprinted : (Resource.mk id locale entries).toJson.nesting ≤ maxNesting := by
    simp only [fields, nesting, nestingOfMembers] at hnesting
    simp only [toJson, nesting, nestingOfMembers]
    omega
  rw [ofText_compact hordered hprinted hnumbers, (reread_eq_iff hordered).mpr fun q hq => ?_]
  obtain ⟨p, hp, hq⟩ := mem_messagesOfEntries.mp hq
  obtain ⟨m, hm, hread⟩ := mem_of_dictionary? hentries hp
  exact Entry.plain_of_unrepeated m.2 p.2 hread (hmembers m hm) _ q hq

/-- Entries of which one binds an object that repeats the name of its
field. -/
def repeatedPath : List (String × Json) :=
  [("label", .object [("value", .array [.string "Hello ",
      .object [("var_path", .array [.string "who"])]])]),
    ("start", .object [("value", .array [.object [("msg_path", .array [.string "label"]),
      ("scope", .object [("who", .object [("var_path", .array [.string "x"]),
        ("var_path", .array [.string "name"])])])]])])]

/-- The resource with these entries. The object is no record and is bound
as a value, with the last of the paths. -/
def greeter : Resource :=
  ⟨"res", "en",
    [("label", .message (.pattern [.literal (.string "Hello "),
      .variable [.literal (.string "who")]])),
    ("start", .message (.pattern [.message none [.literal (.string "label")]
      (some [("who", .value (.map [("var_path", .list [.string "name"])]))])]))]⟩

/-- What a resource greets Ann with. -/
def greeting (r : Resource) : Option String :=
  ((Catalog.empty.add r).2.format r.id ["start"] [("name", .string "Ann")]).toOption

/-- The value is printed as a record, and is read as the variable that it
was not. -/
theorem repeated_path_is_reread : ∃ text r r', ofText text = .ok r ∧
    ofText (compact r.toJson) = .ok r' ∧ r' ≠ r ∧
    r.greeting = some "Hello \x7bvar_path: name\x7d" ∧ r'.greeting = some "Hello Ann" := by
  have hr : ofText (compact (.object (fields "res" "en" repeatedPath))) = .ok greeter :=
    ofText_fields rfl (by decide) (by decide)
  have hordered : greeter.Ordered := (settled_of_ofText hr).1
  have hgreeting : greeter.greeting = some "Hello \x7bvar_path: name\x7d" := by decide +kernel
  have hagain : (greeter.mapMessages Message.reread).greeting = some "Hello Ann" := by
    decide +kernel
  refine ⟨_, greeter, _, hr, ofText_compact hordered (by decide) (by decide), ?_, hgreeting, hagain⟩
  intro heq
  rw [heq, hgreeting] at hagain
  exact absurd hagain (by decide)

end Resource

end MessageCatalog
