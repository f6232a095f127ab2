import DataDiagram.Proofs.Code.Names
import Mathlib.Data.List.Forall2
/-!
# Laws of substitution

Substitution goes through the pieces of a node, whatever the node is, and makes the node anew from
what it finds there.  So the laws of substitution are proved for pieces in general, and for names,
which alone are replaced.
-/

namespace DataDiagram

open List

namespace Code

/-! ## Pieces -/

/-- Whether a sequence is gone through: one that starts with something else than code is left
alone. -/
def startsWithNode : List Code → Bool
  | [] => false
  | c :: _ => c.isNode

/-- The pieces that substitution goes through. -/
def pieces : Code → List Code
  | datum _ | name .. | pass _ | bare .. => []
  | tuple items => if startsWithNode items then items else []
  | block _ body => body
  | const _ v | ret _ v | bareCall _ v => [v]
  | op _ v w | attr _ v w | item _ v w | call _ v w => [v, w]
  | assign _ u v w | cond _ u v w | cls _ u v w => [u, v, w]
  | var _ n t s i => [n, t, s, i]
  | func _ n as b gs ls => [n, as, b, gs, ls]

/-- The code with other pieces. -/
def withPieces (c : Code) (fs : List Code) : Code :=
  let nth (i : Nat) := fs.getD i nothing
  match c with
  | tuple items => tuple (if startsWithNode items then fs else items)
  | block r _ => mkBlock r fs
  | const r _ => const r (nth 0)
  | ret r _ => ret r (nth 0)
  | bareCall r _ => bareCall r (nth 0)
  | op r _ _ => op r (nth 0) (nth 1)
  | attr r _ _ => attr r (nth 0) (nth 1)
  | item r _ _ => item r (nth 0) (nth 1)
  | call r _ _ => call r (nth 0) (nth 1)
  | assign r _ _ _ => assign r (nth 0) (nth 1) (nth 2)
  | cond r _ _ _ => cond r (nth 0) (nth 1) (nth 2)
  | var r _ _ _ _ => var r (nth 0) (nth 1) (nth 2) (nth 3)
  | func r _ _ _ _ _ => func r (nth 0) (nth 1) (nth 2) (nth 3) (nth 4)
  | c => c

/-- Code that stands in a sequence or in a block for itself. -/
def isSingle : Code → Bool
  | datum _ | tuple _ | block .. => false
  | _ => true

/-- Whether a node is one that can be made anew: it has an origin and is no class, a block holds
statements that are not opened, and a sequence that starts with code holds nothing else. -/
def isRegular : Code → Bool
  | datum _ => true
  | tuple items => !startsWithNode items || items.all isNode
  | block r body => r.isSome && body.all isSingle
  | cls .. => false
  | c => c.ref.isSome

/-- Code all of whose nodes can be made anew. -/
inductive Sound : Code → Prop
  | intro {c : Code} (hown : c.isRegular = true) (hpieces : ∀ f ∈ c.pieces, Sound f) : Sound c

variable {c d : Code} {cs fs gs : List Code} {m m' m₁ m₂ : Substitution}

theorem isNode_of_isSingle (h : c.isSingle = true) : c.isNode = true := by
  cases c <;> first | rfl | exact nomatch h

theorem flat_of_isSingle (h : ∀ c ∈ cs, c.isSingle = true) : Flat cs := by
  intro c hc
  have hsingle := h c hc
  cases c <;> first | rfl | exact nomatch hsingle

theorem substAll_eq_mapM (h : ∀ c ∈ cs, c.isNode = true) : substAll m cs = cs.mapM (subst m) := by
  induction cs with
  | nil => rfl
  | cons c cs ih =>
    rw [forall_mem_cons] at h
    rw [substAll, requireNode, if_pos h.1, ih h.2, mapM_cons]
    rfl

theorem isNode_of_mem_tuple (hown : (tuple cs).isRegular = true)
    (hstart : startsWithNode cs = true) :
    ∀ c ∈ cs, c.isNode = true := by
  simpa [isRegular, hstart] using hown

variable {r : Option Origin}

theorem isSingle_of_mem_block (hown : (block r cs).isRegular = true) :
    ∀ c ∈ cs, c.isSingle = true := by
  rw [isRegular, Bool.and_eq_true, all_eq_true] at hown
  exact hown.2

/-- Substitution in a node that is no name is substitution in its pieces. -/
theorem subst_eq_mapM (hown : c.isRegular = true) (hname : ∀ r id, c ≠ name r id) :
    c.subst m = (do let fs ← c.pieces.mapM (subst m); return c.withPieces fs) := by
  cases c with
  | datum d => rfl
  | name r id => exact absurd rfl (hname r id)
  | cls => exact nomatch hown
  | tuple cs =>
    rw [subst, pieces]
    cases hstart : startsWithNode cs with
    | true =>
      have hnodes := isNode_of_mem_tuple hown hstart
      rw [substItems_eq_substAll m hnodes, substAll_eq_mapM hnodes]
      simp [withPieces, hstart]
    | false =>
      cases cs with
      | nil => rfl
      | cons c cs =>
        have hc : c.isNode = false := hstart
        simp only [substItems, hc, withPieces, hstart]
        rfl
  | block r cs =>
    have hnodes := fun c hc => isNode_of_isSingle (isSingle_of_mem_block hown c hc)
    rw [isRegular, Bool.and_eq_true] at hown
    obtain ⟨o, rfl⟩ := Option.isSome_iff_exists.1 hown.1
    rw [subst, substItems_eq_substAll m hnodes, substAll_eq_mapM hnodes]
    rfl
  | _ =>
    obtain ⟨o, rfl⟩ := Option.isSome_iff_exists.1 hown
    have hok (kind : String) : requireRef kind (some o) = pure () := rfl
    simp [subst, pieces, withPieces, hok]

theorem withPieces_pieces (hown : c.isRegular = true) : c.withPieces c.pieces = c := by
  cases c with
  | tuple cs => cases hstart : startsWithNode cs <;> simp [withPieces, pieces, hstart]
  | block r cs => exact (flat_of_isSingle (isSingle_of_mem_block hown)).mkBlock r
  | _ => rfl

/-- What is found in a field stands where the field stood. -/
structure Fills (f g : Code) : Prop where
  isNode : g.isNode = f.isNode
  isSingle : g.isSingle = f.isSingle
  isExpr : g.isExpr = f.isExpr

theorem Fills.refl (c : Code) : Fills c c := ⟨rfl, rfl, rfl⟩

theorem startsWithNode_eq (h : List.Forall₂ Fills fs gs) :
    startsWithNode gs = startsWithNode fs := by
  cases h with
  | nil => rfl
  | cons h => exact h.isNode

theorem all_isNode_of_forall₂ (h : List.Forall₂ Fills fs gs) : gs.all isNode = fs.all isNode := by
  induction h with
  | nil => rfl
  | cons h _ ih => rw [all_cons, all_cons, h.isNode, ih]

theorem all_isSingle_of_forall₂ (h : List.Forall₂ Fills fs gs) :
    gs.all isSingle = fs.all isSingle := by
  induction h with
  | nil => rfl
  | cons h _ ih => rw [all_cons, all_cons, h.isSingle, ih]

/-- What a node is like with other pieces: a node of the same kind that holds them. -/
structure Refilled (c : Code) (gs : List Code) (d : Code) : Prop where
  isRegular : d.isRegular = true
  pieces : d.pieces = gs
  fills : Fills c d
  withPieces : ∀ fs, d.withPieces fs = c.withPieces fs
  ne_name : (∀ r id, c ≠ name r id) → ∀ r id, d ≠ name r id

theorem refilled_tuple (hown : (tuple cs).isRegular = true)
    (h : List.Forall₂ Fills (tuple cs).pieces gs) :
    Refilled (tuple cs) gs ((tuple cs).withPieces gs) := by
  cases hstart : startsWithNode cs with
  | true =>
    simp only [Code.pieces, hstart, if_true] at h
    have hgs := (startsWithNode_eq h).trans hstart
    have hall := (all_isNode_of_forall₂ h).trans (all_eq_true.2 (isNode_of_mem_tuple hown hstart))
    simp only [Code.withPieces, hstart, if_true]
    exact ⟨by simp [Code.isRegular, hall], by simp [Code.pieces, hgs], ⟨rfl, rfl, rfl⟩,
      fun fs => by simp [Code.withPieces, hgs, hstart], fun _ => nofun⟩
  | false =>
    simp only [Code.pieces, hstart, Bool.false_eq_true, if_false] at h
    cases h
    simp only [Code.withPieces, hstart, Bool.false_eq_true, if_false]
    exact ⟨hown, by simp [Code.pieces, hstart], .refl _, fun _ => rfl, fun _ => nofun⟩

theorem refilled_block (hown : (block r cs).isRegular = true)
    (h : List.Forall₂ Fills cs gs) : Refilled (block r cs) gs ((block r cs).withPieces gs) := by
  have hall := all_isSingle_of_forall₂ h
  rw [Code.isRegular, ← hall] at hown
  have hgs : ∀ c ∈ gs, c.isSingle = true := isSingle_of_mem_block hown
  rw [Code.withPieces, (flat_of_isSingle hgs).mkBlock]
  exact ⟨hown, rfl, ⟨rfl, rfl, rfl⟩, fun _ => rfl, fun _ => nofun⟩

theorem refilled (hown : c.isRegular = true) (h : List.Forall₂ Fills c.pieces gs) :
    Refilled c gs (c.withPieces gs) := by
  cases c with
  | tuple cs => exact refilled_tuple hown h
  | block r cs => exact refilled_block hown h
  | cls => exact nomatch hown
  | datum | name | pass | bare =>
    cases h
    exact ⟨hown, rfl, .refl _, fun _ => rfl, id⟩
  | const | ret | bareCall =>
    obtain _ | ⟨-, _ | _⟩ := h
    exact ⟨hown, rfl, ⟨rfl, rfl, rfl⟩, fun _ => rfl, fun _ => nofun⟩
  | op | attr | item | call =>
    obtain _ | ⟨-, _ | ⟨-, _ | _⟩⟩ := h
    exact ⟨hown, rfl, ⟨rfl, rfl, rfl⟩, fun _ => rfl, fun _ => nofun⟩
  | assign | cond =>
    obtain _ | ⟨-, _ | ⟨-, _ | ⟨-, _ | _⟩⟩⟩ := h
    exact ⟨hown, rfl, ⟨rfl, rfl, rfl⟩, fun _ => rfl, fun _ => nofun⟩
  | var =>
    obtain _ | ⟨-, _ | ⟨-, _ | ⟨-, _ | ⟨-, _ | _⟩⟩⟩⟩ := h
    exact ⟨hown, rfl, ⟨rfl, rfl, rfl⟩, fun _ => rfl, fun _ => nofun⟩
  | func =>
    obtain _ | ⟨-, _ | ⟨-, _ | ⟨-, _ | ⟨-, _ | ⟨-, _ | _⟩⟩⟩⟩⟩ := h
    exact ⟨hown, rfl, ⟨rfl, rfl, rfl⟩, fun _ => rfl, fun _ => nofun⟩

/-! ## Replacements -/

/-- What can stand in for a name: a number, another name, or an expression. -/
inductive Replacement : Code → Prop
  | int (n : Int) : Replacement (datum (.int n))
  | bool (b : Bool) : Replacement (datum (.bool b))
  | name (x : String) : Replacement (text x)
  | expr {c : Code} (hc : c.isExpr = true) (hsound : Sound c) : Replacement c

end Code

open Code

namespace Substitution

/-- Whether names are replaced by numbers, names and expressions. -/
def Proper (m : Substitution) : Prop := ∀ x c, m x = some c → Replacement c

/-- One substitution after another, as a single one. -/
def andThen (m₁ m₂ : Substitution) : Substitution := fun x =>
  match m₁ x with
  | none => m₂ x
  | some (text y) => some ((m₂ y).getD (text y))
  | some (datum d) => some (datum d)
  | some c => (c.subst m₂).toOption

end Substitution

namespace Code

variable {c d : Code} {cs fs gs : List Code} {m m' m₁ m₂ : Substitution} {r : Option Origin}

theorem replaceName_of_isExpr (h : c.isExpr = true) (r : Option Origin) (id : Code) :
    replaceName r id c = .ok c := by
  cases c <;> first | rfl | exact nomatch h

theorem isSingle_of_isExpr (h : c.isExpr = true) : c.isSingle = true := by
  cases c <;> first | rfl | exact nomatch h

theorem fills_name (h : d.isExpr = true) (r : Option Origin) (id : Code) : Fills (name r id) d :=
  have hsingle := isSingle_of_isExpr h
  ⟨isNode_of_isSingle hsingle, hsingle, h⟩

/-- What a name with an origin is replaced by. -/
theorem Replacement.exists_replaceName (h : Replacement c) (o : Origin) (id : Code) :
    ∃ d, replaceName (some o) id c = .ok d ∧ Sound d ∧ d.isExpr = true := by
  cases h with
  | int n | bool b => exact ⟨_, rfl, .intro rfl (forall_mem_singleton.2 (.intro rfl nofun)), rfl⟩
  | name x => exact ⟨_, rfl, .intro rfl nofun, rfl⟩
  | expr hc hsound => exact ⟨c, replaceName_of_isExpr hc _ id, hsound, hc⟩

/-- What replaces a name does not depend on the name. -/
theorem Replacement.replaceName_eq (h : Replacement c) (o : Origin) (id id' : Code) :
    replaceName (some o) id c = replaceName (some o) id' c := by
  cases h with
  | int | bool | name => rfl
  | expr hc => rw [replaceName_of_isExpr hc, replaceName_of_isExpr hc]

theorem exists_substName (hm : m.Proper) (o : Origin) (id : Code) :
    ∃ d, substName m (some o) id = .ok d ∧ Sound d ∧ d.isExpr = true := by
  have hkept : Sound (name (some o) id) ∧ (name (some o) id).isExpr = true :=
    ⟨.intro rfl nofun, rfl⟩
  unfold substName
  split
  · split
    · next hx => exact (hm _ _ hx).exists_replaceName o _
    · exact ⟨_, rfl, hkept⟩
  · exact ⟨_, rfl, hkept⟩

/-! ## The laws -/

/-- The induction that all laws are proved by: names on their own, and other nodes from their
pieces. -/
theorem Sound.rec_pieces {P : Code → Prop} (hname : ∀ o id, P (name (some o) id))
    (hnode : ∀ c : Code, c.isRegular = true → (∀ r id, c ≠ name r id) →
      (∀ f ∈ c.pieces, Sound f ∧ P f) →
      P c) (h : Sound c) : P c := by
  induction h with
  | @intro c hown hpieces ih =>
    by_cases hc : ∃ r id, c = name r id
    · obtain ⟨r, id, rfl⟩ := hc
      obtain ⟨o, rfl⟩ := Option.isSome_iff_exists.1 hown
      exact hname o id
    · exact hnode c hown (fun r id heq => hc ⟨r, id, heq⟩) fun f hf => ⟨hpieces f hf, ih f hf⟩

variable {g : Code → Except CodeError Code}

theorem mapM_congr {g' : Code → Except CodeError Code} (h : ∀ f ∈ fs, g f = g' f) :
    fs.mapM g = fs.mapM g' := by
  induction fs with
  | nil => rfl
  | cons f fs ih =>
    rw [forall_mem_cons] at h
    rw [mapM_cons, mapM_cons, h.1, ih h.2]

theorem Sound.subst_none (h : Sound c) : c.subst (fun _ => none) = .ok c := by
  refine h.rec_pieces (P := fun c => c.subst (fun _ => none) = .ok c) (fun o id => ?_)
    fun c hown hname ih => ?_
  · rw [subst]
    unfold substName
    split <;> rfl
  · rw [subst_eq_mapM hown hname,
      (mapM_congr fun f hf => (ih f hf).2).trans (mapM_pure (f := fun f => f)), map_id']
    exact congrArg Except.ok (withPieces_pieces hown)

theorem mentioned_subset_of_mem_pieces {f : Code} (hf : f ∈ c.pieces) :
    f.mentioned ⊆ c.mentioned := by
  have hall {f : Code} {cs : List Code} (hf : f ∈ cs) : f.mentioned ⊆ mentionedAll cs := by
    rw [mentionedAll_eq_flatMap]
    exact fun x hx => mem_flatMap.2 ⟨f, hf, hx⟩
  intro x hx
  cases c with
  | datum | name | pass | bare => exact nomatch hf
  | tuple cs =>
    rw [pieces] at hf
    split at hf
    · exact hall hf hx
    · exact nomatch hf
  | block => exact hall hf hx
  | _ =>
    simp only [pieces, mem_cons, not_mem_nil, or_false] at hf
    simp only [mentioned, mem_append]
    grind

theorem Sound.subst_congr (h : Sound c) (hm : ∀ x ∈ c.mentioned, m x = m' x) :
    c.subst m = c.subst m' := by
  revert hm
  refine h.rec_pieces (P := fun c => (∀ x ∈ c.mentioned, m x = m' x) → c.subst m = c.subst m')
    (fun o id hm => ?_) fun c hown hname ih hm => ?_
  · rw [subst, subst]
    unfold substName
    split
    · next x => rw [hm x (by simp [mentioned, texts])]
    · rfl
  · rw [subst_eq_mapM hown hname, subst_eq_mapM hown hname]
    rw [mapM_congr fun f hf => (ih f hf).2 fun x hx => hm x (mentioned_subset_of_mem_pieces hf hx)]

/-- One after the other, a substitution finds in each field what stands for it. -/
theorem exists_mapM {R : Code → Code → Prop}
    (h : ∀ f ∈ fs, ∃ d, g f = .ok d ∧ R f d) :
    ∃ ds, fs.mapM g = .ok ds ∧ List.Forall₂ (fun f d => g f = .ok d ∧ R f d) fs ds := by
  induction fs with
  | nil => exact ⟨[], rfl, .nil⟩
  | cons f fs ih =>
    rw [forall_mem_cons] at h
    obtain ⟨d, hd, hR⟩ := h.1
    obtain ⟨ds, hds, hall⟩ := ih h.2
    exact ⟨d :: ds, by rw [mapM_cons, hd, hds]; rfl, .cons ⟨hd, hR⟩ hall⟩

/-- How the pieces of a node are found: each of them sound, and the node made from them. -/
theorem exists_subst_node (hown : c.isRegular = true) (hname : ∀ r id, c ≠ name r id)
    (h : ∀ f ∈ c.pieces, ∃ d, f.subst m = .ok d ∧ Sound d ∧ Fills f d) :
    ∃ ds, c.subst m = .ok (c.withPieces ds) ∧ Refilled c ds (c.withPieces ds) ∧
    (∀ d ∈ ds, Sound d) ∧
      List.Forall₂ (fun f d => f.subst m = .ok d) c.pieces ds := by
  obtain ⟨ds, hds, hall⟩ := exists_mapM h
  have hsound : List.Forall₂ (fun _ d => Sound d) c.pieces ds := hall.imp fun _ _ h => h.2.1
  refine ⟨ds, by rw [subst_eq_mapM hown hname, hds]; rfl, refilled hown (hall.imp fun _ _ h =>
    h.2.2), ?_,
    hall.imp fun _ _ h => h.1⟩
  intro d hd
  obtain ⟨i, hi, rfl⟩ := mem_iff_getElem.1 hd
  exact (List.forall₂_iff_get.1 hsound).2 i (by rw [hsound.length_eq]; exact hi) hi

/-- A proper substitution goes through, and leaves sound code of the same kind. -/
theorem Sound.exists_subst (h : Sound c) (hm : m.Proper) :
    ∃ d, c.subst m = .ok d ∧ Sound d ∧ Fills c d := by
  refine h.rec_pieces (P := fun c => ∃ d, c.subst m = .ok d ∧ Sound d ∧ Fills c d)
    (fun o id => ?_) fun c hown hname ih => ?_
  · obtain ⟨d, hd, hsound, hexpr⟩ := exists_substName hm o id
    exact ⟨d, hd, hsound, fills_name hexpr _ _⟩
  · obtain ⟨ds, hd, hre, hsound, -⟩ := exists_subst_node hown hname fun f hf => (ih f hf).2
    exact ⟨_, hd, .intro hre.isRegular (by rwa [hre.pieces]), hre.fills⟩

theorem andThen_of_isExpr {x : String} (hx : m₁ x = some c) (hc : c.isExpr = true) :
    m₁.andThen m₂ x = (c.subst m₂).toOption := by
  unfold Substitution.andThen
  rw [hx]
  cases c <;> first | rfl | exact nomatch hc

theorem subst_substName (h₁ : m₁.Proper) (h₂ : m₂.Proper) (o : Origin) (id : Code)
    (hd : substName m₁ (some o) id = .ok d) :
    d.subst m₂ = substName (m₁.andThen m₂) (some o) id := by
  unfold substName at hd ⊢
  split at hd
  · next x =>
    cases hx : m₁ x with
    | none =>
      simp only [hx, Substitution.andThen] at hd ⊢
      cases hd
      rfl
    | some c =>
      simp only [hx] at hd
      cases h₁ x c hx with
      | int n | bool b =>
        cases hd
        simp only [Substitution.andThen, hx]
        rfl
      | name y =>
        cases hd
        simp only [Substitution.andThen, hx]
        rw [subst]
        cases hy : m₂ y with
        | none => simp [substName, hy, replaceName, requireRef]
        | some e => simpa [substName, hy] using (h₂ y e hy).replaceName_eq o _ _
      | expr hc hsound =>
        rw [replaceName_of_isExpr hc] at hd
        cases hd
        obtain ⟨e, he, -, hfills⟩ := hsound.exists_subst h₂
        simp only [andThen_of_isExpr hx hc, he, Except.toOption]
        exact (replaceName_of_isExpr (hfills.isExpr.trans hc) _ _).symm
  · next hid =>
    cases hd
    rw [subst]
    unfold substName
    split
    · next x => exact absurd rfl (hid x)
    · rfl

/-- Two substitutions, one after the other, do what both at once do. -/
theorem Sound.subst_subst (h : Sound c) (h₁ : m₁.Proper) (h₂ : m₂.Proper)
    (hd : c.subst m₁ = .ok d) :
    d.subst m₂ = c.subst (m₁.andThen m₂) := by
  revert d
  refine h.rec_pieces (P := fun c => ∀ {d}, c.subst m₁ = .ok d →
    d.subst m₂ = c.subst (m₁.andThen m₂))
    (fun o id d hd => subst_substName h₁ h₂ o id hd) fun c hown hname ih d hd => ?_
  obtain ⟨ds, hds, hre, -, hall⟩ :=
    exists_subst_node hown hname fun f hf => (ih f hf).1.exists_subst h₁
  cases hd.symm.trans hds
  have hmap : ∀ {fs ds : List Code}, (∀ f ∈ fs, f ∈ c.pieces) →
      List.Forall₂ (fun f d => f.subst m₁ = .ok d) fs ds →
      ds.mapM (subst m₂) = fs.mapM (subst (m₁.andThen m₂)) := by
    intro fs ds hmem hall
    induction hall with
    | nil => rfl
    | cons hf _ ihs =>
      rw [forall_mem_cons] at hmem
      rw [mapM_cons, mapM_cons, (ih _ hmem.1).2 hf, ihs hmem.2]
  rw [subst_eq_mapM hre.isRegular (hre.ne_name hname), hre.pieces, subst_eq_mapM hown hname,
    hmap (fun _ => id) hall]
  simp only [hre.withPieces]

/-- Replacing nothing leaves code as it is, a substitution matters at the names of the code only,
and two substitutions that are made one after the other are one. -/
theorem substitution_laws {t : Code} (ht : Sound t) (h₁ : m₁.Proper) (h₂ : m₂.Proper) :
    t.subst (.ofList []) = .ok t ∧
      (∀ m : Substitution, (∀ x ∈ t.mentioned, m x = m₁ x) → t.subst m = t.subst m₁) ∧
      ∃ t₁ t₂, t.subst m₁ = .ok t₁ ∧ t₁.subst m₂ = .ok t₂ ∧ t.subst (m₁.andThen m₂) = .ok t₂ := by
  refine ⟨ht.subst_none, fun m hm => ht.subst_congr hm, ?_⟩
  obtain ⟨t₁, ht₁, hsound, -⟩ := ht.exists_subst h₁
  obtain ⟨t₂, ht₂, -⟩ := hsound.exists_subst h₂
  exact ⟨t₁, t₂, ht₁, ht₂, (ht.subst_subst h₁ h₂ ht₁).symm.trans ht₂⟩

theorem proper_ofList {entries : List (String × Code)} (h : ∀ e ∈ entries, Replacement e.2) :
    (Substitution.ofList entries).Proper := by
  intro x c hx
  obtain ⟨e, he, rfl⟩ := Option.map_eq_some_iff.1 hx
  exact h e (mem_reverse.1 (mem_of_find?_eq_some he))

theorem substitution_laws_assign :
    let o : Origin := ⟨"", [], none⟩
    let x := name (some o) (text "x")
    let y := name (some o) (text "y")
    let sum := fun v => op (some o) (text "+") (tuple [v, y])
    let t := assign (some o) y (sum x) nothing
    let m₁ : Substitution := .ofList [("x", text "z"), ("y", sum x)]
    let m₂ : Substitution := .ofList [("z", y), ("x", datum (.int 3))]
    ∃ t₁ t₂, t.subst m₁ = .ok t₁ ∧ t₁.subst m₂ = .ok t₂ ∧ t.subst (m₁.andThen m₂) = .ok t₂ := by
  intro o x y sum t m₁ m₂
  have hname (z : String) : Sound (name (some o) (text z)) := .intro rfl nofun
  have htext (z : String) : Sound (text z) := .intro rfl nofun
  have hsum : Sound (sum x) := by
    refine .intro rfl (forall_mem_cons.2 ⟨htext _, forall_mem_singleton.2 (.intro rfl ?_)⟩)
    exact forall_mem_cons.2 ⟨hname _, forall_mem_singleton.2 (hname _)⟩
  have ht : Sound t := by
    refine .intro rfl (forall_mem_cons.2 ⟨hname _, forall_mem_cons.2 ⟨hsum, ?_⟩⟩)
    exact forall_mem_singleton.2 (.intro rfl nofun)
  have h₁ : m₁.Proper :=
    proper_ofList (forall_mem_cons.2 ⟨.name _, forall_mem_singleton.2 (.expr rfl hsum)⟩)
  have h₂ : m₂.Proper :=
    proper_ofList (forall_mem_cons.2 ⟨.expr rfl (hname _), forall_mem_singleton.2 (.int 3)⟩)
  exact (substitution_laws ht h₁ h₂).2.2

end Code

end DataDiagram
