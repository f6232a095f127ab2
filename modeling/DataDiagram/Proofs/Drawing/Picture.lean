import DataDiagram.Drawing.Picture
import DataDiagram.Proofs.Assignment.Tokens
import DataDiagram.Proofs.Number.Rounding
/-!
# Coordinates between zero and one

A graph whose nodes are placed at integers is drawn unless all nodes stand in one column or in one
row.  The picture has a line for every name of a node and for every arrow, and its coordinates keep
the order of the places.
-/

namespace DataDiagram.Drawing

open List

open Binary64 (share share_mono share_of_natural)

/-! ### Nodes with equal names -/

/-- The nodes that are drawn: for every name in the order of first occurrence the last node that has
it. -/
def drawn (vs : List Vertex) : List Vertex :=
  (vs.map Vertex.name).eraseDups.filterMap fun name => vs.reverse.find? fun v => v.name == name

theorem eraseDups_concat (names : List String) (name : String) : (names ++ [name]).eraseDups =
      if name ∈ names then names.eraseDups else names.eraseDups ++ [name] := by
  rw [eraseDups_append]
  by_cases h : name ∈ names
  · simp [List.removeAll, h]
  · simp [List.removeAll, h, eraseDups_cons]

theorem nodup_eraseDups (names : List String) : names.eraseDups.Nodup := by
  induction names using List.reverseRecOn with
  | nil => simp
  | append_singleton names name ih =>
    rw [eraseDups_concat]
    split
    case isTrue => exact ih
    case isFalse h =>
      rw [← concat_eq_append]
      exact ih.concat (mt mem_eraseDups.1 h)

def Placed.name (n : Placed) : String := n.vertex.name

variable {vs : List Vertex} {ns : List Placed} {m n : Placed}

theorem names_putPlaced (ns : List Placed) (n : Placed) : (putPlaced ns n).map Placed.name =
    if n.name ∈ ns.map Placed.name then ns.map Placed.name else ns.map Placed.name ++ [n.name] := by
  induction ns with
  | nil => rfl
  | cons m ns ih =>
    rw [putPlaced, ← Placed.name, ← Placed.name]
    by_cases h : m.name = n.name
    · simp [h]
    · by_cases hmem : n.name ∈ ns.map Placed.name <;> simp_all [Ne.symm h]

theorem mem_putPlaced (hnodup : (ns.map Placed.name).Nodup) (hm : m ∈ putPlaced ns n) :
    m = n ∨ m ∈ ns ∧ n.name ≠ m.name := by
  induction ns with
  | nil => exact .inl (mem_singleton.1 hm)
  | cons k ns ih =>
    rw [map_cons, nodup_cons] at hnodup
    rw [putPlaced] at hm
    split at hm
    case isTrue h =>
      refine (mem_cons.1 hm).imp_right fun hm => ⟨mem_cons_of_mem k hm, fun hname => hnodup.1 ?_⟩
      rw [show k.name = m.name from (beq_iff_eq.1 h).trans hname]
      exact mem_map_of_mem hm
    case isFalse h =>
      rcases mem_cons.1 hm with rfl | hm
      · exact .inr ⟨mem_cons_self, fun hname => h (beq_iff_eq.2 hname.symm)⟩
      · exact (ih hnodup.2 hm).imp_right fun h => ⟨mem_cons_of_mem k h.1, h.2⟩

theorem mem_of_mem_drawn {v : Vertex} (h : v ∈ drawn vs) : v ∈ vs := by
  obtain ⟨name, -, hfind⟩ := mem_filterMap.1 h
  exact mem_reverse.1 (mem_of_find?_eq_some hfind)

theorem drawn_ne_nil (h : vs ≠ []) : drawn vs ≠ [] := by
  obtain ⟨v, vs, rfl⟩ := exists_cons_of_ne_nil h
  intro hnil
  have hnone := filterMap_eq_nil_iff.1 hnil v.name (mem_eraseDups.2 (by simp))
  exact List.find?_eq_none.1 hnone v (by simp) (beq_self_eq_true _)

/-! ### Places -/

/-- A coordinate of a node to which those of all nodes are related. -/
structure IsEnd (r : Int → Int → Prop) (X : Vertex → Int) (vs : List Vertex) (k : Int) : Prop where
  mem : ∃ v ∈ vs, X v = k
  rel : ∀ v ∈ vs, r k (X v)

/-- The extent of an axis reaches from the least to the greatest of the coordinates of some
nodes. -/
inductive Spans (X : Vertex → Int) : List Vertex → Extent → Prop
  | empty : Spans X [] .empty
  | between {vs : List Vertex} {low high : Int} : IsEnd (· ≤ ·) X vs low → IsEnd (· ≥ ·) X vs high →
    Spans X vs ⟨.int low, .int high⟩

variable {X Y : Vertex → Int} {e : Extent} {k : Int}

theorem IsEnd.choose {r : Int → Int → Prop} {rel : Datum.Relation} (h : IsEnd r X vs k)
    (hrel : ∀ m n, if rel.fits (compare m n) then r m n else r n m)
    (htrans : ∀ {l m n}, r l m → r m n → r l n) (v : Vertex) :
    ∃ k', Extent.choose rel (.int k) (.int (X v)) = .ok (.int k') ∧ IsEnd r X (vs ++ [v]) k' := by
  have hordered : Datum.ordered rel (.int k) (.int (X v)) = .ok (rel.fits (compare k (X v))) := by
    simp [Datum.ordered, Datum.number?, Number.isComplex, Number.compare?]
  have hr := hrel k (X v)
  simp only [Extent.choose, hordered]
  cases hfits : rel.fits (compare k (X v)) with
  | true =>
    obtain ⟨w, hw, hk⟩ := h.mem
    rw [hfits] at hr
    exact ⟨k, rfl, ⟨w, mem_append_left _ hw, hk⟩,
      forall_mem_append.2 ⟨h.rel, forall_mem_singleton.2 hr⟩⟩
  | false =>
    rw [hfits] at hr
    exact ⟨X v, rfl, ⟨v, by simp, rfl⟩, forall_mem_append.2 ⟨fun w hw => htrans hr (h.rel w hw),
      forall_mem_singleton.2 (by simpa using hrel (X v) (X v))⟩⟩

theorem fits_less (m n : Int) : if Datum.Relation.less.fits (compare m n) then m ≤ n
      else n ≤ m := by
  cases h : compare m n with
  | lt => exact (compare_lt_iff_lt.1 h).le
  | eq => exact (compare_eq_iff_eq.1 h).ge
  | gt => exact (compare_gt_iff_gt.1 h).le

theorem fits_greater (m n : Int) : if Datum.Relation.greater.fits (compare m n) then m ≥ n
      else n ≥ m := by
  cases h : compare m n with
  | lt => exact (compare_lt_iff_lt.1 h).le
  | eq => exact (compare_eq_iff_eq.1 h).le
  | gt => exact (compare_gt_iff_gt.1 h).le

theorem Spans.extend (h : Spans X vs e) (v : Vertex) :
    ∃ e', e.extend (.int (X v)) = .ok e' ∧ Spans X (vs ++ [v]) e' := by
  cases h with
  | empty => exact ⟨⟨.int (X v), .int (X v)⟩, rfl, .between ⟨by simp, by simp⟩ ⟨by simp, by simp⟩⟩
  | between hlow hhigh =>
    obtain ⟨low, hleast, hlow⟩ := hlow.choose fits_less Int.le_trans v
    obtain ⟨high, hgreatest, hhigh⟩ := hhigh.choose fits_greater (fun h h' => Int.le_trans h' h) v
    exact ⟨⟨.int low, .int high⟩, by simp only [Extent.extend, hleast, hgreatest]; rfl,
      .between hlow hhigh⟩

/-- A node at its place. -/
def placed (X Y : Vertex → Int) (v : Vertex) : Placed := ⟨v, .int (X v), .int (Y v)⟩

variable {layout : Layout}

/-- A layout holds the nodes that have been read. -/
structure Follows (X Y : Vertex → Int) (vs : List Vertex) (layout : Layout) : Prop where
  names : layout.nodes.map Placed.name = (vs.map Vertex.name).eraseDups
  last : ∀ n ∈ layout.nodes, n = placed X Y n.vertex ∧
    (vs.reverse.find? fun v => v.name == n.name) = some n.vertex
  horizontal : Spans X vs layout.horizontal
  vertical : Spans Y vs layout.vertical

theorem Follows.nodes_eq (h : Follows X Y vs layout) :
    layout.nodes = (drawn vs).map (placed X Y) := by
  rw [drawn, ← h.names, filterMap_map, map_filterMap]
  refine ((filterMap_congr fun n hn => ?_).trans filterMap_some).symm
  rw [Function.comp_apply, (h.last n hn).2, Option.map_some, ← (h.last n hn).1]

theorem Follows.put (h : Follows X Y vs layout) (v : Vertex) : ∃ horizontal vertical,
    layout.horizontal.extend (.int (X v)) = .ok horizontal ∧
    layout.vertical.extend (.int (Y v)) = .ok vertical ∧
    Follows X Y (vs ++ [v]) ⟨putPlaced layout.nodes (placed X Y v), horizontal, vertical⟩ := by
  obtain ⟨horizontal, hhorizontal, hspansX⟩ := h.horizontal.extend v
  obtain ⟨vertical, hvertical, hspansY⟩ := h.vertical.extend v
  refine ⟨horizontal, vertical, hhorizontal, hvertical, ?_, fun n hn => ?_, hspansX, hspansY⟩
  · rw [names_putPlaced, h.names, map_append, map_singleton, eraseDups_concat]
    simp only [mem_eraseDups]
    rfl
  · rw [reverse_append, reverse_singleton, singleton_append, List.find?_cons]
    rcases mem_putPlaced (h.names ▸ nodup_eraseDups _) hn with rfl | ⟨hn, hne⟩
    · simp [placed, Placed.name]
    · have hname : (v.name == n.name) = false := beq_eq_false_iff_ne.2 hne
      rw [hname]
      exact h.last n hn

theorem Follows.place {past : List Vertex} (h : Follows X Y past layout)
    (hint : ∀ v ∈ vs, coordinates v.position = .ok (.int (X v), .int (Y v))) :
    ∃ layout', place layout vs = .ok layout' ∧ Follows X Y (past ++ vs) layout' := by
  induction vs generalizing past layout with
  | nil => exact ⟨layout, rfl, by rwa [append_nil]⟩
  | cons v vs ih =>
    obtain ⟨horizontal, vertical, hhorizontal, hvertical, hput⟩ := h.put v
    obtain ⟨layout', hplace, hfollows⟩ := ih hput fun w hw => hint w (mem_cons_of_mem _ hw)
    refine ⟨layout', ?_, by rwa [append_cons]⟩
    rw [Drawing.place, hint v mem_cons_self]
    simp only [bind, Except.bind, computed, hhorizontal, hvertical, Except.mapError]
    exact hplace

/-! ### Coordinates -/

/-- A number of thousandths as text. -/
def thousandths (n : Nat) : String := String.ofList (Binary64.placesText 3 false n)

example : [0, 45, 1000].map thousandths = ["0.000", "0.045", "1.000"] := by decide +kernel

theorem div_int {m n : Int} (hm : 0 ≤ m) (hmn : m ≤ n) (hn : 0 < n) :
    (Datum.int m).div (.int n) = .ok (.float (.ofRatio false m.toNat n.toNat)) := by
  obtain ⟨mantissa, e, hfinite, -⟩ :=
    Binary64.exists_ofRatio_eq (show 0 < n.toNat by omega) (Int.toNat_le_toNat hmn)
  have hsign : (decide (m < 0) != decide (n < 0)) = false := by
    simp [not_lt.2 hm, not_lt.2 hn.le]
  have hquotient : Number.intQuotient m n = .ok (.float (.ofRatio false m.toNat n.toNat)) := by
    have hnum : m.natAbs = m.toNat := by omega
    have hden : n.natAbs = n.toNat := by omega
    rw [Number.intQuotient, if_neg (by simp [hn.ne']), hsign, hnum, hden, hfinite]
    simp only
    split
    case isTrue hzero =>
      have hm0 : m.toNat = 0 := by simpa using congrArg Int.toNat (beq_iff_eq.1 hzero)
      rw [← hfinite, hm0]
      simp [Binary64.ofRatio]
    case isFalse => rfl
  simp only [Datum.div, Datum.number?, Datum.onNumbers, Number.div, Number.combine, hquotient]
  rfl

/-- Thousandths that stand for the coordinates of nodes: the least is zero, the greatest is
thousand, and the order is kept. -/
structure Normalises (X : Vertex → Int) (vs : List Vertex) (p : Vertex → Nat) : Prop where
  le_thousand : ∀ v ∈ vs, p v ≤ 1000
  least : ∀ v ∈ vs, (∀ w ∈ vs, X v ≤ X w) → p v = 0
  greatest : ∀ v ∈ vs, (∀ w ∈ vs, X w ≤ X v) → p v = 1000
  mono : ∀ v ∈ vs, ∀ w ∈ vs, X v ≤ X w → p v ≤ p w

/-- All nodes have the same coordinate. -/
def Level (X : Vertex → Int) (vs : List Vertex) : Prop := ∀ v ∈ vs, ∀ w ∈ vs, X v = X w

instance decidableLevel (X : Vertex → Int) (vs : List Vertex) : Decidable (Level X vs) :=
  inferInstanceAs (Decidable (∀ v ∈ vs, ∀ w ∈ vs, X v = X w))

/-- What an axis does to the nodes: with a size of zero there is no quotient, otherwise every
coordinate has a text. -/
theorem Spans.normalise (h : Spans X vs e) (hvs : vs ≠ []) : ∃ size, e.size = .ok size ∧
      ((Level X vs ∧ ∀ x, e.normalise size (.int x) = .error (.number .divisionByZero)) ∨
        (¬ Level X vs ∧ ∃ p, Normalises X vs p ∧ ∀ v ∈ vs, ∃ d,
          e.normalise size (.int (X v)) = .ok d ∧ coordinateText d = thousandths (p v))) := by
  cases h with
  | empty => exact absurd rfl hvs
  | between hlow hhigh =>
    obtain ⟨v₀, hv₀, rfl⟩ := hlow.mem
    obtain ⟨v₁, hv₁, rfl⟩ := hhigh.mem
    refine ⟨.int (X v₁ - X v₀), rfl, ?_⟩
    rcases (hlow.rel v₁ hv₁).eq_or_lt with heq | hlt
    · refine .inl ⟨fun v hv w hw => ?_, fun x => ?_⟩
      · have hv := And.intro (hlow.rel v hv) (hhigh.rel v hv)
        have hw := And.intro (hlow.rel w hw) (hhigh.rel w hw)
        omega
      · rw [heq, Int.sub_self]
        rfl
    · have hsize : 0 < (X v₁ - X v₀).toNat := by omega
      have hinside (v : Vertex) (hv : v ∈ vs) : (X v - X v₀).toNat ≤ (X v₁ - X v₀).toNat :=
        Int.toNat_le_toNat (Int.sub_le_sub_right (hhigh.rel v hv) _)
      have hone : share (X v₁ - X v₀).toNat (X v₁ - X v₀).toNat = 1000 :=
        share_of_natural (k := 1) hsize le_rfl (by simpa using Binary64.nearest_self hsize)
      refine .inr ⟨fun hlevel => hlt.ne (hlevel v₀ hv₀ v₁ hv₁),
        fun v => share (X v - X v₀).toNat (X v₁ - X v₀).toNat, ⟨?_, ?_, ?_, ?_⟩, ?_⟩
      · exact fun v hv => (share_mono hsize (hinside v hv) le_rfl).trans_eq hone
      · intro v hv hleast
        have hzero : X v = X v₀ := le_antisymm (hleast v₀ hv₀) (hlow.rel v hv)
        rw [hzero, Int.sub_self]
        exact share_of_natural (k := 0) hsize (Nat.zero_le _)
          (by simpa using Binary64.nearest_zero hsize)
      · intro v hv hgreatest
        rw [le_antisymm (hhigh.rel v hv) (hgreatest v₁ hv₁)]
        exact hone
      · intro v hv w hw hvw
        exact share_mono hsize (Int.toNat_le_toNat (Int.sub_le_sub_right hvw _)) (hinside w hw)
      · intro v hv
        have hv := And.intro (hlow.rel v hv) (hhigh.rel v hv)
        refine ⟨_, div_int (by omega) (by omega) (by omega), ?_⟩
        exact Binary64.fixedText_ofRatio hsize (Int.toNat_le_toNat (by omega))

/-! ### Lines -/

/-- The lines of a picture with the thousandths `p` and `q` as coordinates. -/
def Graph.lines (g : Graph) (style : Style) (p q : Vertex → Nat) : List String :=
  (if style.definitions then definitionLines else []) ++
    opening style :: (drawn g.vertices).map
      (fun v => nodeLine v (thousandths (p v)) (thousandths (q v))) ++
      g.arrows.map arrowLine ++ [closing]

variable {lines : List String} {width height : Datum} {style : Style}

theorem mapM_written_eq (h : ∀ line ∈ lines, Text.surrogateRefusal? line.toList = none) :
    lines.mapM written = .ok lines := by
  induction lines with
  | nil => rfl
  | cons line lines ih =>
    rw [forall_mem_cons] at h
    rw [mapM_cons, ih h.2, written, h.1]
    rfl

theorem kind_of_mapM_written {e : DrawError} (h : lines.mapM written = .error e) :
    e.kind = .encoding := by
  induction lines with
  | nil => cases h
  | cons line lines ih =>
    rw [mapM_cons, written] at h
    split at h
    · cases h
      rfl
    · cases hmore : lines.mapM written with
      | error e' =>
        rw [hmore] at h
        cases h
        exact ih hmore
      | ok _ =>
        rw [hmore] at h
        cases h

theorem nodeLines_eq {p q : Vertex → Nat}
    (hx : ∀ v ∈ vs, ∃ d, layout.horizontal.normalise width (.int (X v)) = .ok d ∧
      coordinateText d = thousandths (p v))
    (hy : ∀ v ∈ vs, ∃ d, layout.vertical.normalise height (.int (Y v)) = .ok d ∧
      coordinateText d = thousandths (q v)) :
    nodeLines layout width height (vs.map (placed X Y)) =
      (vs.map fun v => nodeLine v (thousandths (p v)) (thousandths (q v))).mapM written := by
  induction vs with
  | nil => rfl
  | cons v vs ih =>
    rw [forall_mem_cons] at hx hy
    obtain ⟨dx, hdx, hxtext⟩ := hx.1
    obtain ⟨dy, hdy, hytext⟩ := hy.1
    rw [map_cons, map_cons, nodeLines, mapM_cons, ih hx.2 hy.2]
    simp only [placed, hdx, hdy, computed, Except.mapError, bind, Except.bind, hxtext, hytext]

theorem picture_eq {g : Graph} (hoptions : ∀ o ∈ style.options, o.1 ∉ reservedOptions)
    (hopening : Text.surrogateRefusal? (opening style).toList = none)
    (hplace : place ⟨[], .empty, .empty⟩ g.vertices = .ok layout)
    (hwidth : layout.horizontal.size = .ok width) (hheight : layout.vertical.size = .ok height) :
    g.picture style = (do
      let nodes ← nodeLines layout width height layout.nodes
      let arrows ← (g.arrows.map arrowLine).mapM written
      return String.join ((if style.definitions then definitionLines else []) ++
        opening style :: nodes ++ arrows ++ [closing])) := by
  have hcheck : checkOptions style.options = .ok () := by
    have hfind : style.options.find? (fun o => reservedOptions.contains o.1) = none := by
      simpa [List.find?_eq_none] using hoptions
    rw [checkOptions, hfind]
  have hwritten : written (opening style) = .ok (opening style) := by rw [written, hopening]
  rw [Graph.picture, hcheck, hplace, mapM_map]
  simp only [bind, Except.bind, computed, hwidth, hheight, Except.mapError, hwritten,
    Function.comp_def]

theorem join_written (hopening : Text.surrogateRefusal? (opening style).toList = none)
    (nodes arrows : List String) : (do
      let nodes ← nodes.mapM written
      let arrows ← arrows.mapM written
      return String.join ((if style.definitions then definitionLines else []) ++
        opening style :: nodes ++ arrows ++ [closing])) =
      String.join <$> ((if style.definitions then definitionLines else []) ++
        opening style :: nodes ++ arrows ++ [closing]).mapM written := by
  have hdefinitions : (if style.definitions then definitionLines else []).mapM written =
      .ok (if style.definitions then definitionLines else []) :=
    mapM_written_eq (by cases style.definitions <;> decide +kernel)
  have hclosing : written closing = .ok closing := by
    rw [written, show Text.surrogateRefusal? closing.toList = none by decide +kernel]
  have hwritten : written (opening style) = .ok (opening style) := by rw [written, hopening]
  simp only [mapM_append, mapM_cons, mapM_nil, hdefinitions, hwritten, hclosing]
  cases nodes.mapM written with
  | error => rfl
  | ok => cases arrows.mapM written <;> rfl

/-! ### Integers -/

namespace Vertex

/-- The place of a node, if its coordinates are integers. -/
def integers? (v : Vertex) : Option (Int × Int) :=
  match coordinates v.position with
  | .ok (.int x, .int y) => some (x, y)
  | _ => none

def x (v : Vertex) : Int := (v.integers?.getD (0, 0)).1

def y (v : Vertex) : Int := (v.integers?.getD (0, 0)).2

theorem coordinates_eq {v : Vertex} (h : v.integers?.isSome) :
    coordinates v.position = .ok (.int v.x, .int v.y) := by
  unfold x y integers? at *
  split
  case h_1 heq => rw [heq]; rfl
  case h_2 => simp at h

end Vertex

def slope : Graph :=
  ⟨[⟨"a", "0, 10", "", none⟩, ⟨"b", "-4,0x20", "2", some "square"⟩, ⟨"a", "1,11", "1", none⟩],
    [⟨"a", "b", "0|1"⟩]⟩

section Long

variable {n : Nat} (hn : Datum.maxDigits ≤ n)

include hn

theorem scanNumber_ones : Source.scanNumber (replicate (n + 1) '1' ++ ['\n']) = none := by
  have hdigits (k : Nat) : Assignment.Digits (replicate (k + 1) '1') (replicate (k + 1) '1') := by
    induction k with
    | zero => exact .last rfl
    | succ k ih => exact .next rfl ih
  have hlength : Datum.maxDigits < n + 1 := by omega
  have hzeros : ((replicate (n + 1) '1').head? == some '0') = false := rfl
  have hends : Source.endsNumber ['\n'] = true := rfl
  rw [(hdigits n).scanNumber_eq (by simp [Assignment.Ends, Assignment.terminators])]
  simp [Source.decimalNumber, Source.exponentPart, hends, hzeros, hlength]

theorem tokens_ones : Source.tokens (replicate (n + 1) '1') = none := by
  have hones : ∀ c ∈ replicate (n + 1) '1', (c ≠ '\r' ∧ c ≠ '\n') ∧ Source.isQuote c = false := by
    intro c hc
    rw [eq_of_mem_replicate hc]
    decide
  have hmode : Source.stringMode? (replicate (n + 1) '1' ++ ['\n']) = none :=
    Assignment.stringMode?_eq_none
      (forall_mem_append.2 ⟨fun c hc => (hones c hc).2, forall_mem_singleton.2 rfl⟩)
  have htoken : Source.scanToken (replicate (n + 1) '1' ++ ['\n']) = none := by
    have hnumber := scanNumber_ones hn
    rw [replicate_succ, cons_append] at hmode hnumber ⊢
    rw [Assignment.scanToken_cons hmode (by decide), if_pos (by decide), hnumber]
    rfl
  have hfuel : 2 * (replicate (n + 1) '1' ++ ['\n']).length + 2 = 2 * n + 4 + 1 + 1 := by
    simp
    omega
  rw [Source.tokens, Source.tokensFrom, Assignment.normalLines_eq fun c hc => (hones c hc).1, hfuel,
    Assignment.scan_fresh rfl (by decide) (by decide) rfl rfl, Assignment.scan_solid rfl
      (by decide)]
  exact congrArg (Option.bind · _) htoken

theorem coordinates_ones : coordinates (String.ofList (replicate (n + 1) '1' ++ [',', '0'])) =
      .error (.literal .illFormed) := by
  have hnot {c : Char} (hc : c ≠ '1') : c ∉ replicate (n + 1) '1' :=
    fun h => hc (eq_of_mem_replicate h)
  have hsplit :
      (replicate (n + 1) '1' ++ [',', '0']).splitOn ',' = [replicate (n + 1) '1', ['0']] :=
    splitOn_append_cons_self_of_not_mem (hnot (by decide)) _
  have hrefusal : Text.surrogateRefusal? (replicate (n + 1) '1') = none := by
    have hone : (Text.surrogate? '1').isNone = true := rfl
    rw [Text.surrogateRefusal?, takeWhile_replicate, if_pos hone, drop_length]
    rfl
  have hnull : (replicate (n + 1) '1').contains (Char.ofNat 0) = false := by
    simp
  have hread : readLiteral (replicate (n + 1) '1') = .error .illFormed := by
    have hblank : (replicate (n + 1) '1').dropWhile (fun c => c == ' ' || c == '\t') =
        replicate (n + 1) '1' := rfl
    simp only [readLiteral, hblank, hrefusal, hnull, Source.readExpression, tokens_ones hn]
    rfl
  rw [coordinates, String.toList_ofList, hsplit, mapM_cons, hread]
  rfl

end Long

/-- A graph with a coordinate of 4301 digits. -/
def farGraph : Graph :=
  ⟨[⟨"a", String.ofList (replicate 4301 '1' ++ [',', '0']), "", none⟩, ⟨"b", "0,1", "", none⟩], []⟩

end DataDiagram.Drawing
