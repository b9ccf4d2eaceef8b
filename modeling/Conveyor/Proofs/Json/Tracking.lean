import Conveyor.Json.Reader
import Mathlib.Data.List.Forall2

/-!
# Readers that follow other readers

A reader follows another one (`Follows`) if it reads whatever the other one reads, to the same
place, and the results are related. Readers of lists and of records follow each other if the readers
of their parts do.
-/

namespace Conveyor.Json

variable {α β ρ σ : Type} {R : α → β → Prop} {read : Reader α} {read' : Reader β}

lemma bind_eq_ok {ε : Type} {x : Except ε α} {f : α → Except ε β} {b : β} :
    x >>= f = .ok b ↔ ∃ a, x = .ok a ∧ f a = .ok b := by
  cases x <;> simp [bind, Except.bind]

/-- Whether the second reader reads what the first one reads, with a related result. -/
def Follows (R : α → β → Prop) (read : Reader α) (read' : Reader β) : Prop :=
  ∀ ⦃s : List Char⦄ ⦃a : α⦄ ⦃t : List Char⦄, read s = .ok (a, t) →
    ∃ b, read' s = .ok (b, t) ∧ R a b

/-! ### Lists -/

lemma Follows.elements (h : Follows R read read') (fuel : Nat) (first : Bool) :
    Follows (List.Forall₂ R) (readElements read fuel first) (readElements read' fuel first) := by
  induction fuel generalizing first with
  | zero =>
    intro s as t result
    cases result
  | succ fuel ih =>
    intro s as t result
    rw [readElements, bind_eq_ok] at result
    obtain ⟨next, found, result⟩ := result
    cases next with
    | none =>
      cases result
      refine ⟨[], ?_, .nil⟩
      rw [readElements, found]
      rfl
    | some s₁ =>
      obtain ⟨⟨a, s₂⟩, head, result⟩ := bind_eq_ok.mp result
      obtain ⟨⟨as, s₃⟩, tail, result⟩ := bind_eq_ok.mp result
      cases result
      obtain ⟨b, head', related⟩ := h head
      obtain ⟨bs, tail', others⟩ := ih false tail
      refine ⟨b :: bs, ?_, .cons related others⟩
      simp [readElements, found, head', tail', bind, Except.bind, pure, Except.pure]

lemma Follows.list (h : Follows R read read') :
    Follows (List.Forall₂ R) (readList read) (readList read') := by
  intro s as t result
  unfold readList at result ⊢
  split at result
  · obtain ⟨⟨as, s₁⟩, elements, result⟩ := bind_eq_ok.mp result
    obtain ⟨s₂, ends, result⟩ := bind_eq_ok.mp result
    cases result
    obtain ⟨bs, elements', related⟩ := h.elements _ true elements
    refine ⟨bs, ?_, related⟩
    simp [elements', ends, bind, Except.bind, pure, Except.pure]
  · cases result

/-! ### Records -/

/-- Whether a field of another type of records stands at the same place and is read alike. -/
structure RecordField.Follows (R : ρ → σ → Prop) (f : RecordField ρ) (g : RecordField σ) :
    Prop where
  name : f.name = g.name
  required : f.required = g.required
  read : ∀ ⦃r : ρ⦄ ⦃r' : σ⦄, R r r' → Json.Follows R (f.read r) (g.read r')

variable {S : ρ → σ → Prop} {shape : RecordShape ρ} {shape' : RecordShape σ}
  {fs : List (RecordField ρ)} {gs : List (RecordField σ)}

lemma find?_eq_none (h : List.Forall₂ (RecordField.Follows S) fs gs) {p : String → Bool → Bool}
    (none : (fs.find? fun f => p f.name f.required) = none) :
    (gs.find? fun g => p g.name g.required) = Option.none := by
  induction h with
  | nil => rfl
  | @cons f g _ _ head _ ih =>
    rw [List.find?_cons, head.name, head.required] at none
    rw [List.find?_cons]
    cases found : p g.name g.required with
    | true => simp [found] at none
    | false =>
      rw [found] at none
      exact ih none

lemma find?_eq_some (h : List.Forall₂ (RecordField.Follows S) fs gs) {p : String → Bool → Bool}
    {f : RecordField ρ} (some : (fs.find? fun f => p f.name f.required) = some f) :
    ∃ g, (gs.find? fun g => p g.name g.required) = Option.some g ∧ f.Follows S g := by
  induction h with
  | nil => cases some
  | @cons f g _ _ head _ ih =>
    rw [List.find?_cons, head.name, head.required] at some
    rw [List.find?_cons]
    cases found : p g.name g.required with
    | true =>
      rw [found] at some
      cases some
      exact ⟨g, rfl, head⟩
    | false =>
      rw [found] at some
      exact ih some

lemma findIdx?_required (h : List.Forall₂ (RecordField.Follows S) fs gs) :
    fs.findIdx? RecordField.required = gs.findIdx? RecordField.required := by
  induction h with
  | nil => rfl
  | cons head _ ih => rw [List.findIdx?_cons, List.findIdx?_cons, head.required, ih]

lemma readInOrder_follows (shape : RecordShape ρ) (shape' : RecordShape σ)
    (h : List.Forall₂ (RecordField.Follows S) fs gs) (index : Nat) {r : ρ}
    {r' : σ} (start : S r r') :
    Follows S (shape.readInOrder index fs r) (shape'.readInOrder index gs r') := by
  induction h generalizing index r r' with
  | nil =>
    intro s a t result
    cases result
    exact ⟨r', rfl, start⟩
  | @cons f g fs gs head later ih =>
    intro s a t result
    rw [RecordShape.readInOrder, bind_eq_ok] at result
    obtain ⟨next, found, result⟩ := result
    cases next with
    | some s₁ =>
      obtain ⟨⟨r₁, s₂⟩, value, result⟩ := bind_eq_ok.mp result
      obtain ⟨r₁', value', related⟩ := head.read start value
      obtain ⟨b, others, final⟩ := ih (index + 1) related result
      refine ⟨b, ?_, final⟩
      simp [RecordShape.readInOrder, found, value', others, bind, Except.bind]
    | none =>
      simp only [findIdx?_required (.cons head later)] at result
      cases complete : (g :: gs).findIdx? RecordField.required with
      | some i =>
        rw [complete] at result
        cases result
      | none =>
        rw [complete] at result
        cases result
        refine ⟨r', ?_, start⟩
        simp [RecordShape.readInOrder, found, complete, bind, Except.bind, pure, Except.pure]

lemma readByName_follows (h : List.Forall₂ (RecordField.Follows S) shape.fields shape'.fields)
    (fuel : Nat) (first : Bool) (seen : List String) {r : ρ} {r' : σ} (start : S r r') :
    Follows (fun a b => S a.1 b.1 ∧ a.2 = b.2) (shape.readByName fuel first seen r)
      (shape'.readByName fuel first seen r') := by
  induction fuel generalizing first seen r r' with
  | zero =>
    intro s a t result
    cases result
  | succ fuel ih =>
    intro s a t result
    rw [RecordShape.readByName, bind_eq_ok] at result
    obtain ⟨next, found, result⟩ := result
    cases next with
    | none =>
      cases result
      refine ⟨(r', seen), ?_, start, rfl⟩
      simp [RecordShape.readByName, found, bind, Except.bind, pure, Except.pure]
    | some s₁ =>
      obtain ⟨⟨key, s₂⟩, name, result⟩ := bind_eq_ok.mp result
      cases known : shape.fields.find? fun f => f.name = String.ofList key with
      | none =>
        have unknown := find?_eq_none h (p := fun n _ => n = String.ofList key) known
        simp only [known] at result
        obtain ⟨s₃, passed, result⟩ := bind_eq_ok.mp result
        obtain ⟨s₄, skipped, result⟩ := bind_eq_ok.mp result
        obtain ⟨b, others, final⟩ := ih false seen start result
        refine ⟨b, ?_, final⟩
        simp [RecordShape.readByName, found, name, unknown, passed, skipped, others, bind,
          Except.bind]
      | some f =>
        obtain ⟨g, known', same⟩ := find?_eq_some h (p := fun n _ => n = String.ofList key) known
        simp only [known] at result
        by_cases twice : seen.contains (String.ofList key)
        · rw [if_pos twice] at result
          obtain ⟨_, refused, -⟩ := bind_eq_ok.mp result
          cases refused
        · rw [if_neg twice] at result
          obtain ⟨s₃, passed, result⟩ := bind_eq_ok.mp result
          obtain ⟨⟨r₁, s₄⟩, value, result⟩ := bind_eq_ok.mp result
          obtain ⟨r₁', value', related⟩ := same.read start value
          obtain ⟨b, others, final⟩ := ih false (String.ofList key :: seen) related result
          refine ⟨b, ?_, final⟩
          simp only [List.contains_eq_mem, decide_eq_true_eq] at twice
          simp [RecordShape.readByName, found, name, known', twice, passed, value', others, bind,
            Except.bind]

lemma Follows.record (h : List.Forall₂ (RecordField.Follows S) shape.fields shape'.fields)
    (start : S shape.start shape'.start) : Follows S shape.read shape'.read := by
  intro s a t result
  unfold RecordShape.read at result ⊢
  split at result
  · obtain ⟨⟨r, s₁⟩, fields, result⟩ := bind_eq_ok.mp result
    obtain ⟨s₂, ends, result⟩ := bind_eq_ok.mp result
    cases result
    obtain ⟨r', fields', related⟩ := readInOrder_follows shape shape' h 0 start fields
    refine ⟨r', ?_, related⟩
    simp [fields', ends, bind, Except.bind, pure, Except.pure]
  · obtain ⟨⟨⟨r, seen⟩, s₁⟩, fields, result⟩ := bind_eq_ok.mp result
    obtain ⟨⟨r', _⟩, fields', related, rfl⟩ := readByName_follows h _ true [] start fields
    cases missing : shape.fields.find? fun f => f.required && !seen.contains f.name with
    | some f =>
      simp only [missing] at result
      cases result
    | none =>
      have complete := find?_eq_none h (p := fun n required => required && !seen.contains n) missing
      simp only [missing] at result
      obtain ⟨s₂, ends, result⟩ := bind_eq_ok.mp result
      cases result
      refine ⟨r', ?_, related⟩
      simp only [fields', bind, Except.bind, complete, ends]
      rfl
  · cases result

end Conveyor.Json
