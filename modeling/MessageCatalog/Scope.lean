/-
Scopes: the variables visible to a message.

A scope is a chain of frames, innermost first. A frame shadows the
frames outside it; nothing that happens in an inner scope is seen from
an outer one, because a chain is never changed. Every frame is a
dictionary in order, so each name has one value in it.
-/
import MessageCatalog.Value

namespace MessageCatalog

/-- A chain of frames, the innermost first. -/
structure Scope where
  frames : List (Dictionary Value)
  ordered : ∀ frame ∈ frames, frame.Ordered

namespace Scope

/-- The scope without frames. -/
def empty : Scope := ⟨[], by simp⟩

/-- A scope with one more frame inside; of several bindings of one name
the last counts. -/
def push (s : Scope) (frame : Dictionary Value) : Scope where
  frames := Dictionary.ofList frame :: s.frames
  ordered f hf := by
    rcases List.mem_cons.mp hf with rfl | hf
    · exact Dictionary.ordered_ofList frame
    · exact s.ordered f hf

/-- A scope of one frame. -/
def ofDictionary (frame : Dictionary Value) : Scope := empty.push frame

/-- The value of a variable in the innermost frame that has it. -/
def get? (s : Scope) (name : String) : Option Value :=
  s.frames.findSome? (Dictionary.get? name)

/-- Whether some frame has the variable. -/
def contains (s : Scope) (name : String) : Bool := (s.get? name).isSome

/-- How many frames there are. -/
def depth (s : Scope) : Nat := s.frames.length

/-- All visible variables as one dictionary. -/
def flatten (s : Scope) : Dictionary Value :=
  s.frames.foldr (fun frame outer => Dictionary.override outer frame) []

/-- The value that a list of keys leads to: the first names a variable,
the others lead into its value. -/
def walk? (s : Scope) : List Value → Option Value
  | [] => none
  | first :: rest => rest.foldl (fun v key => v.bind (·.get? key)) (s.get? first.text)

/-- The value that a list of keys leads to, or the path between braces
if there is none. -/
def walk (s : Scope) (keys : List Value) : Value :=
  (s.walk? keys).getD
    (.string ("\x7b$" ++ ".".intercalate (keys.map Value.text) ++ "\x7d"))

/-- A frame shadows the frames outside it. -/
theorem get?_push (s : Scope) (frame : Dictionary Value) (name : String) :
    (s.push frame).get? name
      = (Dictionary.get? name (Dictionary.ofList frame)).or (s.get? name) := by
  unfold get? push
  rw [List.findSome?_cons]
  cases Dictionary.get? name (Dictionary.ofList frame) with
  | none => rfl
  | some v => rfl

/-- What is visible with a frame is what is visible without it, overridden. -/
theorem flatten_push (s : Scope) (frame : Dictionary Value) :
    (s.push frame).flatten = Dictionary.override s.flatten (Dictionary.ofList frame) := rfl

/-- The visible variables are those that can be looked up, with the values
that a look-up gives. -/
theorem get?_flatten (s : Scope) (name : String) :
    Dictionary.get? name s.flatten = s.get? name := by
  obtain ⟨frames, ordered⟩ := s
  unfold flatten get?
  induction frames with
  | nil => rfl
  | cons frame outer ih =>
    have houter := ih fun f hf => ordered f (List.mem_cons_of_mem _ hf)
    rw [List.foldr_cons, List.findSome?_cons,
      Dictionary.get?_override name _ (ordered frame (List.mem_cons_self ..)), houter]
    cases Dictionary.get? name frame with
    | none => rfl
    | some v => rfl

/-- Scopes with the same visible variables answer every look-up alike. -/
theorem get?_eq_of_visible {s t : Scope} (h : s.flatten = t.flatten) (name : String) :
    s.get? name = t.get? name := by
  rw [← get?_flatten, h, get?_flatten]

end Scope

end MessageCatalog
