import Stagecraft.Error
import Stagecraft.Proofs.Text.Quoted

/-!
The words of an error name it. Main statement: no two errors are reported in the same words,
whatever the texts and numbers in them are (`GameError.message_eq_iff`). The first letter tells the
kinds apart, and what is written between the fixed words of one kind can be read again.
-/

set_option autoImplicit false

namespace Stagecraft

namespace Phase

theorem name_inj {p q : Phase} : p.name = q.name ↔ p = q := by
  cases p <;> cases q <;> decide

theorem blank_notMem_name (p : Phase) : ' ' ∉ p.name.toList := by
  cases p <;> decide

end Phase

namespace RenderError

theorem message_costumeOutOfRange (i n : Nat) :
    (costumeOutOfRange i n).message =
      "active costume " ++ i.repr ++ " out of range for " ++ n.repr ++ " costume(s)" := rfl

/-- Each of the two numbers ends with a blank. -/
theorem toList_message_costumeOutOfRange (i n : Nat) :
    (costumeOutOfRange i n).message.toList =
      "active costume ".toList ++ (Nat.toDigits 10 i ++ ' ' :: ("out of range for ".toList ++
        (Nat.toDigits 10 n ++ ' ' :: "costume(s)".toList))) := by
  rw [message_costumeOutOfRange]
  simp only [String.toList_append, Nat.toList_repr, List.append_assoc]
  rfl

def initial : RenderError → Char
  | .noCostumes => 's'
  | .costumeOutOfRange .. => 'a'

theorem head?_message (e : RenderError) : e.message.toList.head? = some e.initial := by
  cases e with
  | noCostumes => decide
  | costumeOutOfRange i n => rw [toList_message_costumeOutOfRange]; rfl

theorem message_inj {e₁ e₂ : RenderError} : e₁.message = e₂.message ↔ e₁ = e₂ := by
  refine ⟨fun h => ?_, congrArg _⟩
  have hinitial : e₁.initial = e₂.initial := by
    rw [← Option.some.injEq, ← head?_message, ← head?_message, h]
  cases e₁ with
  | noCostumes =>
    cases e₂ with
    | noCostumes => rfl
    | costumeOutOfRange => simp [initial] at hinitial
  | costumeOutOfRange i n =>
    cases e₂ with
    | noCostumes => simp [initial] at hinitial
    | costumeOutOfRange j m =>
      have hblank : ∀ d, ' ' ≠ Nat.digitChar d := by simp
      rw [← String.toList_inj, toList_message_costumeOutOfRange, toList_message_costumeOutOfRange,
        List.append_cancel_left_eq, Text.toDigits_append_inj (by decide) (by decide) hblank,
        List.append_cancel_left_eq, Text.toDigits_append_inj (by decide) (by decide) hblank] at h
      obtain ⟨rfl, rfl, -⟩ := h
      rfl

end RenderError

namespace GameError

theorem toList_message_surfaceNotFound (id : String) :
    (surfaceNotFound id).message.toList =
      "no drawing surface with id ".toList ++ (Text.quote id).toList :=
  String.toList_append

theorem message_invalidState (op : String) (p : Phase) :
    (invalidState op p).message = "cannot " ++ op ++ " a game that is " ++ p.name := rfl

theorem toList_message_invalidState (op : String) (p : Phase) :
    (invalidState op p).message.toList =
      "cannot ".toList ++ (op.toList ++ (" a game that is ".toList ++ p.name.toList)) := by
  rw [message_invalidState]
  simp only [String.toList_append, List.append_assoc]

theorem toList_message_render (e : RenderError) :
    (render e).message.toList = "render failed: ".toList ++ e.message.toList :=
  String.toList_append

def initial : GameError → Char
  | .surfaceNotFound _ => 'n'
  | .invalidTickRate => 't'
  | .invalidState .. => 'c'
  | .render _ => 'r'

theorem head?_message (e : GameError) : e.message.toList.head? = some e.initial := by
  cases e with
  | surfaceNotFound id => rw [toList_message_surfaceNotFound]; rfl
  | invalidTickRate => decide
  | invalidState op p => rw [toList_message_invalidState]; rfl
  | render e => rw [toList_message_render]; rfl

/-- The phase is what follows the last blank, so the operation may hold any text. -/
theorem message_invalidState_inj {op₁ op₂ : String} {p₁ p₂ : Phase}
    (h : (invalidState op₁ p₁).message = (invalidState op₂ p₂).message) : op₁ = op₂ ∧ p₁ = p₂ := by
  have hblank (p : Phase) : ' ' ∉ p.name.toList.reverse := by
    rw [List.mem_reverse]
    exact p.blank_notMem_name
  have hwords : " a game that is ".toList.reverse = ' ' :: "si taht emag a ".toList := by decide
  rw [← String.toList_inj, toList_message_invalidState, toList_message_invalidState,
    List.append_cancel_left_eq, ← List.reverse_inj] at h
  simp only [List.reverse_append, List.append_assoc, hwords, List.cons_append] at h
  obtain ⟨hname, hop⟩ := Text.append_cons_inj (hblank p₁) (hblank p₂) h
  rw [List.reverse_inj, String.toList_inj, Phase.name_inj] at hname
  rw [List.append_cancel_left_eq, List.reverse_inj, String.toList_inj] at hop
  exact ⟨hop, hname⟩

/-- No two errors are reported in the same words. -/
theorem message_eq_iff {e₁ e₂ : GameError} : e₁.message = e₂.message ↔ e₁ = e₂ := by
  refine ⟨fun h => ?_, congrArg _⟩
  have hinitial : e₁.initial = e₂.initial := by
    rw [← Option.some.injEq, ← head?_message, ← head?_message, h]
  cases e₁ with
  | surfaceNotFound id₁ =>
    cases e₂ with
    | surfaceNotFound id₂ =>
      rw [← String.toList_inj, toList_message_surfaceNotFound, toList_message_surfaceNotFound,
        List.append_cancel_left_eq, String.toList_inj, Text.quote_inj] at h
      rw [h]
    | _ => simp [initial] at hinitial
  | invalidTickRate =>
    cases e₂ with
    | invalidTickRate => rfl
    | _ => simp [initial] at hinitial
  | invalidState op₁ p₁ =>
    cases e₂ with
    | invalidState op₂ p₂ =>
      obtain ⟨rfl, rfl⟩ := message_invalidState_inj h
      rfl
    | _ => simp [initial] at hinitial
  | render r₁ =>
    cases e₂ with
    | render r₂ =>
      rw [← String.toList_inj, toList_message_render, toList_message_render,
        List.append_cancel_left_eq, String.toList_inj, RenderError.message_inj] at h
      rw [h]
    | _ => simp [initial] at hinitial

end GameError

end Stagecraft
