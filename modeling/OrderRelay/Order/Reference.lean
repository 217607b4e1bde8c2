import OrderRelay.Text.Blank
import OrderRelay.Text.Quoted

/-!
# Order references

A reference names one order. It is a non-empty text of ASCII letters, digits, `-` and `_`, so the URI
made from it always has exactly one segment after `/orders/`.

* `OrderReference`, which carries the proof that its text is allowed;
* `OrderReference.parse`, which trims first, and `OrderReference.ofUri`, which wants an order URI;
* `OrderReference.uri`, the way back;
* `ReferenceError`, what is wrong with a refused text.
-/

namespace OrderRelay

open Text

/-- The characters of a reference. -/
def isReferenceChar (c : Char) : Bool := c.isAlphanum || c == '-' || c == '_'

/-- A text that can be a reference. -/
def IsReferenceText (s : String) : Prop := s ≠ "" ∧ s.toList.all isReferenceChar = true

instance (s : String) : Decidable (IsReferenceText s) := by
  unfold IsReferenceText; infer_instance

/-- The reference of a single order. -/
structure OrderReference where
  text : String
  valid : IsReferenceText text
deriving DecidableEq, Repr

/-- Why a text is not a reference, or not the URI of one. -/
inductive ReferenceError where
  | empty
  /-- The trimmed text and its first character that a reference cannot hold. -/
  | unsupported (text : String) (bad : Char)
  | notAnOrderUri (uri : String)
deriving DecidableEq, Repr

namespace ReferenceError

/-- The reason in words. -/
def reason : ReferenceError → String
  | empty => "order reference is empty"
  | unsupported text bad =>
    "order reference " ++ quoted text ++ " contains unsupported character " ++ quotedChar bad
  | notAnOrderUri uri => quoted uri ++ " is not an order URI"

/-- A reason as the message that reports it. -/
def report (reason : String) : String := "invalid order reference: " ++ reason

/-- The message of an error. -/
def message (e : ReferenceError) : String := report e.reason

end ReferenceError

namespace OrderReference

/-- What every order URI begins with. -/
def uriHead : String := "/orders/"

/-- The reference written in a text, blanks at the ends aside. -/
def parse (raw : String) : Except ReferenceError OrderReference :=
  let text := trim raw
  if hne : text = "" then .error .empty
  else match hf : text.toList.find? (fun c => !isReferenceChar c) with
    | some bad => .error (.unsupported text bad)
    | none => .ok ⟨text, hne, by
        rw [List.find?_eq_none] at hf
        rw [List.all_eq_true]
        intro c hc
        simpa using hf c hc⟩

/-- The URI of the order. -/
def uri (r : OrderReference) : String := uriHead ++ r.text

/-- The rest of a list after another list it begins with. -/
def dropHead? {α : Type} [DecidableEq α] : List α → List α → Option (List α)
  | [], ys => some ys
  | _ :: _, [] => none
  | x :: xs, y :: ys => if x = y then dropHead? xs ys else none

/-- The reference of an order URI. Blanks are allowed around the URI and around the reference in it. -/
def ofUri (uri : String) : Except ReferenceError OrderReference :=
  match dropHead? uriHead.toList (trim uri).toList with
  | none => .error (.notAnOrderUri uri)
  | some rest => parse (String.ofList rest)

theorem dropHead?_append {α : Type} [DecidableEq α] (xs ys : List α) :
    dropHead? xs (xs ++ ys) = some ys := by
  induction xs with
  | nil => rfl
  | cons x xs ih => simp [dropHead?, ih]

theorem eq_append_of_dropHead? {α : Type} [DecidableEq α] {xs ys zs : List α}
    (h : dropHead? xs ys = some zs) : ys = xs ++ zs := by
  induction xs generalizing ys with
  | nil => simpa [dropHead?] using h
  | cons x xs ih =>
    cases ys with
    | nil => simp [dropHead?] at h
    | cons y ys =>
      by_cases hxy : x = y
      · simp only [dropHead?, hxy, if_true] at h
        rw [ih h, hxy, List.cons_append]
      · simp [dropHead?, hxy] at h

end OrderReference

end OrderRelay
