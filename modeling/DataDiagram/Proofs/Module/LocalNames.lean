import DataDiagram.Proofs.Module.Scope
/-!
# Names of locals outside of their functions

A local becomes a variable of the module that is named after the function and the local, with an
underscore between them.  Both names may hold underscores themselves, so that two locals can end up
with one name: exactly if the name of one function goes on after an underscore with what the name of
the other one's local starts with.
-/

namespace DataDiagram

open List

/-- The local `x` of the function `f` and the local `y` of the function `g`, where the name of `g`
is that of `f` with an underscore and more, which `x` starts with. -/
def Overlap (f x g y : String) : Prop := ∃ z, g = f ++ "_" ++ z ∧ x = z ++ "_" ++ y

variable {f g x y : String}

theorem Overlap.toList_iff : Overlap f x g y ↔
      ∃ z, g.toList = f.toList ++ '_' :: z ∧ x.toList = z ++ '_' :: y.toList := by
  constructor
  · rintro ⟨z, rfl, rfl⟩
    exact ⟨z.toList, by simp, by simp⟩
  · rintro ⟨z, hg, hx⟩
    refine ⟨String.ofList z, ?_, ?_⟩
    · rw [← String.toList_inj, hg]
      simp
    · rw [← String.toList_inj, hx]
      simp

theorem eq_or_overlap {z : List Char} (hg : g.toList = f.toList ++ z)
    (hx : '_' :: x.toList = z ++ '_' :: y.toList) : f = g ∧ x = y ∨ Overlap f x g y := by
  cases z with
  | nil =>
    rw [append_nil] at hg
    rw [nil_append, List.cons.injEq] at hx
    exact .inl ⟨String.toList_inj.1 hg.symm, String.toList_inj.1 hx.2⟩
  | cons c z =>
    rw [cons_append, List.cons.injEq] at hx
    obtain ⟨rfl, hx⟩ := hx
    exact .inr (Overlap.toList_iff.2 ⟨z, hg, hx⟩)

/-- Locals of one name never overlap. -/
theorem Overlap.ne (h : Overlap f x g y) : x ≠ y := by
  obtain ⟨z, -, hx⟩ := h
  intro heq
  have hlen := congrArg String.length hx
  simp only [String.length_append, heq] at hlen
  have hone : "_".length = 1 := rfl
  omega

/-- Names that are joined by an underscore come from one pair of names, or from two that overlap. -/
theorem joined_eq_joined_iff :
    f ++ "_" ++ x = g ++ "_" ++ y ↔ f = g ∧ x = y ∨ Overlap f x g y ∨ Overlap g y f x := by
  constructor
  · intro h
    have hchars : f.toList ++ '_' :: x.toList = g.toList ++ '_' :: y.toList := by
      simpa using congrArg String.toList h
    rcases append_eq_append_iff.1 hchars with ⟨z, hg, hx⟩ | ⟨z, hf, hy⟩
    · exact (eq_or_overlap hg hx).imp_right .inl
    · exact (eq_or_overlap hf hy).imp (fun h => ⟨h.1.symm, h.2.symm⟩) .inr
  · rintro (⟨rfl, rfl⟩ | ⟨z, rfl, rfl⟩ | ⟨z, rfl, rfl⟩)
    · rfl
    · simp only [String.append_assoc]
    · simp only [String.append_assoc]

namespace Module

variable {m s : Module} {functions : List String}

/-- The locals of the functions of a scoped module are variables that are named after the function
and the local.  Two of them have one name exactly if they are the same local or overlap, and one has
the name of a variable of the module or of a parameter only if that name starts with the name of the
function and an underscore. -/
theorem scope_localNames (hm : m.Settled)
    (h : m.scope functions = .ok s) {f : Func} (hf : f ∈ m.functions)
    (hselected : f.name ∈ Table.names s.functions) :
    (∃ g ∈ s.functions, g.name = f.name ∧ g.globals = f.globals ++ f.locals.map f.lifted) ∧
    ∀ v ∈ f.locals,
      (∀ f' ∈ m.functions, f'.name ∈ Table.names s.functions → ∀ v' ∈ f'.locals,
        ((f.lifted v).name = (f'.lifted v').name ↔
          f.name = f'.name ∧ v.name = v'.name ∨ Overlap f.name v.name f'.name v'.name ∨
            Overlap f'.name v'.name f.name v.name)) ∧
      ∀ y ∈ Table.names m.vars ++ f.args, (f.lifted v).name = y →
        (f.name ++ "_").toList <+: y.toList := by
  refine ⟨?_, fun v _ => ⟨fun f' _ _ v' _ => joined_eq_joined_iff, ?_⟩⟩
  · obtain ⟨g, hg, hlift⟩ := hm.exists_lifted h hf hselected
    exact ⟨g, hg, Func.name_of_liftLocals hlift, Func.globals_of_liftLocals hlift⟩
  · rintro y - rfl
    refine ⟨v.name.toList, ?_⟩
    rw [← String.toList_append]
    rfl

section Sample

/-- Every local of a module with its function and the name that it gets outside of it. -/
def localNames (m : Module) : List (String × String × String) :=
  m.functions.flatMap fun f => f.locals.map fun v => (f.name, v.name, (f.lifted v).name)

theorem exists_of_mem_localNames {f x y : String} (h : (f, x, y) ∈ m.localNames) :
    ∃ g ∈ m.functions, ∃ v ∈ g.locals, g.name = f ∧ v.name = x ∧ (g.lifted v).name = y := by
  obtain ⟨g, hg, hv⟩ := mem_flatMap.1 h
  obtain ⟨v, hv, heq⟩ := mem_map.1 hv
  simp only [Prod.mk.injEq] at heq
  exact ⟨g, hg, v, hv, heq⟩

/-- Two functions of which one is named like the start of the other, with locals that do not
overlap. -/
def apartText : String :=
  "f_t: int = 0\n" ++
  "def f(a):\n global f_t\n x: int = 0\n x = a\n f_t = x\n" ++
  "def f_g():\n x: int = 0\n f(x)\n"

theorem names_apartText : (scopedText apartText []).map (fun ms =>
    (ms.1.localNames, Table.names ms.2.functions, Table.names ms.2.vars)) =
      some ([("f", "x", "f_x"), ("f_g", "x", "f_g_x")], ["f_g", "f"], ["f_g_x", "f_t", "f_x"]) := by
  decide +kernel

theorem scope_localNames_apart : ∃ m s, Module.ofText apartText = .ok m ∧ m.Settled ∧
    m.scope [] = .ok s ∧
    ∃ f ∈ m.functions, ∃ f' ∈ m.functions, f.name ∈ Table.names s.functions ∧
      f'.name ∈ Table.names s.functions ∧ f.name = "f" ∧ f'.name = "f_g" ∧
      ∃ v ∈ f.locals, ∃ v' ∈ f'.locals, v.name = v'.name ∧
        (f.lifted v).name ≠ (f'.lifted v').name := by
  obtain ⟨m, s, hm, -, hs, hnames⟩ := exists_of_scopedText names_apartText
  simp only [Prod.mk.injEq] at hnames
  obtain ⟨hlocals, hfunctions, -⟩ := hnames
  have hmem : ("f", "x", "f_x") ∈ m.localNames ∧ ("f_g", "x", "f_g_x") ∈ m.localNames := by
    rw [hlocals]
    decide
  obtain ⟨f, hf, v, hv, hfname, hvname, -⟩ := exists_of_mem_localNames hmem.1
  obtain ⟨f', hf', v', hv', hfname', hvname', -⟩ := exists_of_mem_localNames hmem.2
  have hselected : f.name ∈ Table.names s.functions := by
    rw [hfname, hfunctions]
    decide
  have hselected' : f'.name ∈ Table.names s.functions := by
    rw [hfname', hfunctions]
    decide
  have hsame : v.name = v'.name := hvname.trans hvname'.symm
  have hset := settled_ofText hm
  refine ⟨m, s, hm, hset, hs, f, hf, f', hf', hselected, hselected', hfname, hfname', v, hv, v',
    hv',
    hsame, ?_⟩
  have hiff := ((scope_localNames hset hs hf hselected).2 v hv).1 f' hf' hselected' v' hv'
  intro heq
  rcases hiff.1 heq with ⟨hname, -⟩ | hover | hover
  · rw [hfname, hfname'] at hname
    exact absurd hname (by decide)
  · exact hover.ne hsame
  · exact hover.ne hsame.symm

/-- Two functions of which one is named like the start of the other, with locals that overlap. -/
def overlapText : String :=
  "def f():\n g_x: int = 0\n g_x = 1\n" ++
  "def f_g():\n x: int = 0\n x = 2\n"

theorem names_overlapText : (scopedText overlapText []).map (fun ms =>
    (ms.1.localNames, Table.names ms.2.functions, Table.names ms.2.vars)) =
      some ([("f", "g_x", "f_g_x"), ("f_g", "x", "f_g_x")], ["f", "f_g"], ["f_g_x"]) := by
  decide +kernel

/-- The locals of two functions become one variable. -/
theorem scope_overlap : ∃ m s, Module.ofText overlapText = .ok m ∧ m.checkNames = .ok () ∧
    m.scope [] = .ok s ∧ ∃ f ∈ m.functions, ∃ f' ∈ m.functions,
      f.name ∈ Table.names s.functions ∧ f'.name ∈ Table.names s.functions ∧ f.name ≠ f'.name ∧
      ∃ v ∈ f.locals, ∃ v' ∈ f'.locals, v.name ≠ v'.name ∧
        (f.lifted v).name = (f'.lifted v').name ∧ Table.names s.vars = [(f.lifted v).name] := by
  obtain ⟨m, s, hm, hcheck, hs, hnames⟩ := exists_of_scopedText names_overlapText
  simp only [Prod.mk.injEq] at hnames
  obtain ⟨hlocals, hfunctions, hvars⟩ := hnames
  have hmem : ("f", "g_x", "f_g_x") ∈ m.localNames ∧ ("f_g", "x", "f_g_x") ∈ m.localNames := by
    rw [hlocals]
    decide
  obtain ⟨f, hf, v, hv, hfname, hvname, hlift⟩ := exists_of_mem_localNames hmem.1
  obtain ⟨f', hf', v', hv', hfname', hvname', hlift'⟩ := exists_of_mem_localNames hmem.2
  refine ⟨m, s, hm, hcheck, hs, f, hf, f', hf', ?_, ?_, ?_, v, hv, v', hv', ?_, ?_, ?_⟩
  · rw [hfname, hfunctions]
    decide
  · rw [hfname', hfunctions]
    decide
  · rw [hfname, hfname']
    decide
  · rw [hvname, hvname']
    decide
  · rw [hlift, hlift']
  · rw [hvars, hlift]

end Sample

end Module

end DataDiagram
