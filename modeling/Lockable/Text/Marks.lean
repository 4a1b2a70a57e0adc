import Lockable.Failure

/-!
# Marked-up texts

A text that is printed or shown may be **marked up**: words in square brackets say how what follows
them looks. The console and the screen that read the markup are not part of this library. What
matters of them here is which texts they **refuse**, and in which words; a text without an opening
bracket has no markup, and has to be taken.
-/

namespace Lockable

/-- What reads the markup of texts. -/
structure Marks where
  /-- The words in which a text is refused, if it is. -/
  refusal? : String → Option String
  plain : ∀ text : String, '[' ∉ text.toList → refusal? text = none

namespace Marks

/-- What takes every text. -/
def lenient : Marks where
  refusal? _ := none
  plain _ _ := rfl

instance : Inhabited Marks := ⟨lenient⟩

/-- What refuses one text, which has a bracket. -/
def refusing (text words : String) (h : '[' ∈ text.toList) : Marks where
  refusal? text' := if text' = text then some words else none
  plain text' hplain := if_neg (by rintro rfl; exact hplain h)

variable (m : Marks)

/-- The text is taken. -/
def Accepts (text : String) : Prop := m.refusal? text = none

instance (text : String) : Decidable (m.Accepts text) :=
  inferInstanceAs (Decidable (m.refusal? text = none))

/-- The failure of a text that is refused. -/
def failure? (text : String) : Option Failure :=
  (m.refusal? text).map (.foreign "MarkupError")

/-- Reads the markup of a text. -/
def read (text : String) : Except Failure Unit :=
  match m.failure? text with
  | none => .ok ()
  | some e => .error e

/-- Reads the markup of one text after another. -/
def readAll (texts : List String) : Except Failure Unit := texts.forM m.read

variable {m} {text : String} {texts : List String}

@[simp]
theorem accepts_lenient (text : String) : lenient.Accepts text := rfl

theorem failure?_eq_none_iff : m.failure? text = none ↔ m.Accepts text := Option.map_eq_none_iff

theorem read_eq_ok_iff : m.read text = .ok () ↔ m.Accepts text := by
  rw [← failure?_eq_none_iff, read]
  split <;> simp [*]

@[simp]
theorem readAll_singleton (text : String) : m.readAll [text] = m.read text := by
  have hcons : m.readAll [text] = m.read text >>= fun _ => .ok () := rfl
  rw [hcons]
  cases m.read text <;> rfl

/-- Several texts are read when each of them is taken. -/
theorem readAll_eq_ok_iff : m.readAll texts = .ok () ↔ ∀ text ∈ texts, m.Accepts text :=
  forM_eq_ok_iff.trans (by simp only [read_eq_ok_iff])

end Marks

end Lockable
