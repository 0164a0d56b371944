import Mathlib.Algebra.Order.Ring.Int

/-! Sets of a linear order as the ascending list of the places where they begin and end. -/

set_option autoImplicit false

namespace Boundaries

open List

variable {K : Type} [LinearOrder K]

def covers (state : Bool) : List (K × Bool) → K → Bool
  | [], _ => state
  | (place, flag) :: rest, point => if place ≤ point then covers flag rest point else state

inductive Toggles : Bool → List (K × Bool) → Bool → Prop where
  | nil (state : Bool) : Toggles state [] state
  | cons {state last : Bool} {rest : List (K × Bool)} (place : K) :
      Toggles (!state) rest last → Toggles state ((place, !state) :: rest) last

def Ascending (items : List (K × Bool)) : Prop := items.Pairwise fun one two => one.1 < two.1

variable {items lower upper : List (K × Bool)} {state middle last : Bool} {point low high : K}

section Toggles

omit [LinearOrder K]

theorem Toggles.append (first : Toggles state lower middle) (second : Toggles middle upper last) :
    Toggles state (lower ++ upper) last := by
  induction first with
  | nil => exact second
  | cons place _ ih => exact .cons place (ih second)

theorem Toggles.split (both : Toggles state (lower ++ upper) last) :
    ∃ middle, Toggles state lower middle ∧ Toggles middle upper last := by
  induction lower generalizing state with
  | nil => exact ⟨state, .nil state, both⟩
  | cons item rest ih =>
    obtain ⟨place, flag⟩ := item
    cases both with
    | cons _ more =>
      obtain ⟨middle, first, second⟩ := ih more
      exact ⟨middle, .cons place first, second⟩

theorem Toggles.getLast (toggles : Toggles state items last) :
    last = (items.getLast?).elim state Prod.snd := by
  induction toggles with
  | nil => rfl
  | @cons state last rest place more ih =>
    rw [ih]
    cases rest with
    | nil => rfl
    | cons next rest => rw [getLast?_cons_cons, getLast?_cons]; rfl

theorem Toggles.head {item : K × Bool} (toggles : Toggles state (item :: items) last) :
    item.2 = !state := by
  cases toggles
  rfl

end Toggles

theorem covers_before (later : ∀ item ∈ items, point < item.1) :
    covers state items point = state := by
  cases items with
  | nil => rfl
  | cons item rest =>
    rw [covers, if_neg (not_le_of_gt (later item mem_cons_self))]

theorem covers_append (toggles : Toggles state lower middle)
    (earlier : ∀ item ∈ lower, item.1 ≤ point) :
    covers state (lower ++ upper) point = covers middle upper point := by
  induction toggles with
  | nil => rfl
  | cons place _ ih =>
    rw [cons_append, covers, if_pos (earlier _ mem_cons_self)]
    exact ih fun item mem => earlier item (mem_cons_of_mem _ mem)

theorem covers_append_before (later : ∀ item ∈ upper, point < item.1) :
    covers state (lower ++ upper) point = covers state lower point := by
  induction lower generalizing state with
  | nil => exact covers_before later
  | cons item rest ih =>
    rw [cons_append, covers, covers, ih]

theorem Ascending.split (ascending : Ascending items) (p : K × Bool → Bool)
    (down : ∀ one two, one.1 < two.1 → p two = true → p one = true) :
    items = items.filter p ++ items.filter fun item => !p item := by
  induction items with
  | nil => rfl
  | cons item rest ih =>
    obtain ⟨first, others⟩ := pairwise_cons.mp ascending
    by_cases inside : p item = true
    · rw [filter_cons_of_pos inside, filter_cons_of_neg (by rw [inside]; exact nofun),
        cons_append, ← ih others]
    · have outside : ∀ other ∈ rest, p other = false := by
        intro other among
        apply Bool.eq_false_iff.mpr
        intro inner
        exact inside (down _ _ (first other among) inner)
      have none : rest.filter p = [] := by
        rw [filter_eq_nil_iff]
        intro other among
        rw [outside other among]
        exact Bool.false_ne_true
      have all : rest.filter (fun item => !p item) = rest := by
        rw [filter_eq_self]
        intro other among
        rw [outside other among]
        rfl
      rw [filter_cons_of_neg inside, none,
        filter_cons_of_pos (by rw [Bool.eq_false_iff.mpr inside]; rfl), all, nil_append]

def below (place : K) (items : List (K × Bool)) : List (K × Bool) :=
  items.filter fun item => decide (item.1 < place)

def above (place : K) (items : List (K × Bool)) : List (K × Bool) :=
  items.filter fun item => decide (place < item.1)

/-- The boundaries with those of a range in place of what lies between its ends. -/
def add (low high : K) (items : List (K × Bool)) : List (K × Bool) :=
  let inside := (below low items).getLast?.elim false Prod.snd
  let continues := (above high items).head?.elim false fun item => !item.2
  below low items ++ ((if inside then [] else [(low, true)]) ++
    ((if continues then [] else [(high, false)]) ++ above high items))

theorem Ascending.parts (ascending : Ascending items) (ordered : low < high) :
    ∃ between, items = below low items ++ (between ++ above high items) ∧
      ∀ item ∈ between, low ≤ item.1 ∧ item.1 ≤ high := by
  have lower := ascending.split (fun item => decide (item.1 < low))
    (fun one two less before => decide_eq_true (less.trans (of_decide_eq_true before)))
  generalize rest_eq : items.filter (fun item => !decide (item.1 < low)) = rest at lower
  have later : Ascending rest := rest_eq ▸ ascending.filter _
  have upper := later.split (fun item => decide (item.1 ≤ high))
    (fun one two less before => decide_eq_true (less.le.trans (of_decide_eq_true before)))
  have same : rest.filter (fun item => !decide (item.1 ≤ high)) = above high items := by
    rw [← rest_eq, filter_filter, above]
    apply filter_congr
    intro item _
    by_cases beyond : high < item.1
    · simp [beyond, (ordered.trans beyond).le]
    · simp [beyond, not_lt.mp beyond]
  refine ⟨rest.filter fun item => decide (item.1 ≤ high), ?_, ?_⟩
  · rw [← same, ← upper]
    exact lower
  · intro item among
    obtain ⟨among, under⟩ := mem_filter.mp among
    rw [← rest_eq] at among
    have start := (mem_filter.mp among).2
    rw [Bool.not_eq_true', decide_eq_false_iff_not] at start
    exact ⟨not_lt.mp start, of_decide_eq_true under⟩

theorem mem_below {item : K × Bool} (among : item ∈ below low items) : item.1 < low :=
  of_decide_eq_true (mem_filter.mp among).2

theorem mem_above {item : K × Bool} (among : item ∈ above high items) : high < item.1 :=
  of_decide_eq_true (mem_filter.mp among).2

theorem add_eq {first second : Bool} (lower : Toggles false (below low items) first)
    (upper : Toggles second (above high items) false) :
    add low high items = below low items ++ ((if first then [] else [(low, true)]) ++
      ((if second then [] else [(high, false)]) ++ above high items)) := by
  have continues : ((above high items).head?.elim false fun item => !item.2) = second := by
    cases found : above high items with
    | nil =>
      rw [found] at upper
      cases upper
      rfl
    | cons item rest =>
      rw [found] at upper
      rw [head?_cons, Option.elim_some, upper.head, Bool.not_not]
  unfold add
  rw [← lower.getLast, continues]

section Ends

omit [LinearOrder K]

theorem toggles_low (first : Bool) (place : K) :
    Toggles first (if first then [] else [(place, true)]) true := by
  cases first with
  | false => exact .cons place (.nil true)
  | true => exact .nil true

theorem toggles_high (second : Bool) (place : K) :
    Toggles true (if second then [] else [(place, false)]) second := by
  cases second with
  | false => exact .cons place (.nil false)
  | true => exact .nil true

theorem mem_end {cond flag : Bool} {place : K} {item : K × Bool}
    (among : item ∈ if cond then [] else [(place, flag)]) : item.1 = place := by
  cases cond with
  | false => rw [mem_singleton.mp among]
  | true => cases among

end Ends

structure Ranges (items : List (K × Bool)) : Prop where
  ascending : Ascending items
  closed : Toggles false items false

theorem Ranges.nil : Ranges ([] : List (K × Bool)) := ⟨.nil, .nil false⟩

theorem Ranges.add (ranges : Ranges items) (ordered : low < high) : Ranges (add low high items) := by
  obtain ⟨between, whole, _⟩ := ranges.ascending.parts ordered
  have closed := ranges.closed
  rw [whole] at closed
  obtain ⟨first, lower, rest⟩ := closed.split
  obtain ⟨second, _, upper⟩ := rest.split
  rw [add_eq lower upper]
  constructor
  · have low_below : ∀ item ∈ below low items, ∀ place, low ≤ place → item.1 < place :=
      fun item among place least => (mem_below among).trans_le least
    apply pairwise_append.mpr
    refine ⟨ranges.ascending.filter _, pairwise_append.mpr ⟨?_, ?_, ?_⟩, ?_⟩
    · cases first <;> simp
    · apply pairwise_append.mpr
      refine ⟨?_, ranges.ascending.filter _, ?_⟩
      · cases second <;> simp
      · intro one among two other
        rw [mem_end among]
        exact mem_above other
    · intro one among two other
      rw [mem_end among]
      rcases mem_append.mp other with other | other
      · rw [mem_end other]
        exact ordered
      · exact ordered.trans (mem_above other)
    · intro one among two other
      apply low_below one among
      rcases mem_append.mp other with other | other
      · exact (mem_end other).ge
      · rcases mem_append.mp other with other | other
        · rw [mem_end other]
          exact ordered.le
        · exact (ordered.trans (mem_above other)).le
  · exact lower.append ((toggles_low first low).append ((toggles_high second high).append upper))

theorem Ranges.covers_add (ranges : Ranges items) (ordered : low < high) :
    covers false (Boundaries.add low high items) point =
      (covers false items point || decide (low ≤ point ∧ point < high)) := by
  obtain ⟨between, whole, within⟩ := ranges.ascending.parts ordered
  have closed := ranges.closed
  rw [whole] at closed
  obtain ⟨first, lower, rest⟩ := closed.split
  obtain ⟨second, middle, upper⟩ := rest.split
  rw [add_eq lower upper]
  by_cases early : point < low
  · -- only what lies below counts, before and after
    have later : ∀ item ∈ between ++ above high items, point < item.1 := by
      intro item among
      rcases mem_append.mp among with among | among
      · exact early.trans_le (within item among).1
      · exact (early.trans ordered).trans (mem_above among)
    have before : covers false items point = covers false (below low items) point :=
      (congrArg (covers false · point) whole).trans (covers_append_before later)
    rw [before, decide_eq_false (fun both => absurd both.1 (not_le.mpr early)), Bool.or_false]
    apply covers_append_before
    intro item among
    rcases mem_append.mp among with among | among
    · rw [mem_end among]
      exact early
    · rcases mem_append.mp among with among | among
      · rw [mem_end among]
        exact early.trans ordered
      · exact (early.trans ordered).trans (mem_above among)
  · -- what lies below has been passed, and has left the state it ends in
    have reached : low ≤ point := not_lt.mp early
    have lower_before : ∀ item ∈ below low items, item.1 ≤ point :=
      fun item among => (mem_below among).le.trans reached
    have low_before : ∀ item ∈ (if first then [] else [(low, true)] : List (K × Bool)),
        item.1 ≤ point := fun item among => (mem_end among).trans_le reached
    rw [covers_append lower lower_before, covers_append (toggles_low first low) low_before]
    by_cases inside : point < high
    · rw [decide_eq_true ⟨reached, inside⟩, Bool.or_true]
      apply covers_before
      intro item among
      rcases mem_append.mp among with among | among
      · rw [mem_end among]
        exact inside
      · exact inside.trans (mem_above among)
    · have passed : high ≤ point := not_lt.mp inside
      have high_before : ∀ item ∈ (if second then [] else [(high, false)] : List (K × Bool)),
          item.1 ≤ point := fun item among => (mem_end among).trans_le passed
      rw [covers_append (toggles_high second high) high_before,
        decide_eq_false (fun both => inside both.2), Bool.or_false]
      apply Eq.symm
      calc covers false items point
          = covers false (below low items ++ (between ++ above high items)) point :=
            congrArg (covers false · point) whole
        _ = covers first (between ++ above high items) point := covers_append lower lower_before
        _ = covers second (above high items) point :=
            covers_append middle fun item among => (within item among).2.trans passed

theorem Toggles.unique {others : List (K × Bool)} {last' : Bool} (first : Toggles state items last)
    (second : Toggles state others last') (ascending : Ascending items)
    (ascending' : Ascending others)
    (same : ∀ point, covers state items point = covers state others point) : items = others := by
  induction first generalizing others with
  | nil state =>
    cases second with
    | nil => rfl
    | @cons _ _ rest place more =>
      have differs := same place
      rw [covers, covers, if_pos le_rfl, covers_before (pairwise_cons.mp ascending').1] at differs
      exact ((Bool.eq_not_self _).mp differs).elim
  | @cons state last rest place more ih =>
    have first := (pairwise_cons.mp ascending).1
    cases second with
    | nil =>
      have differs := same place
      rw [covers, covers, if_pos le_rfl, covers_before first] at differs
      exact ((Bool.not_eq_self _).mp differs).elim
    | @cons _ _ rest' place' more' =>
      have first' := (pairwise_cons.mp ascending').1
      rcases lt_trichotomy place place' with less | rfl | more
      · -- the first of two different places tells the sets apart
        have differs := same place
        rw [covers, covers, if_pos le_rfl, if_neg (not_le.mpr less), covers_before first] at differs
        exact ((Bool.not_eq_self _).mp differs).elim
      · congr 1
        apply ih more' (pairwise_cons.mp ascending).2 (pairwise_cons.mp ascending').2
        intro point
        have agrees := same point
        rw [covers, covers] at agrees
        by_cases reached : place ≤ point
        · rw [if_pos reached, if_pos reached] at agrees
          exact agrees
        · have early : point < place := not_le.mp reached
          rw [covers_before fun item among => early.trans (first item among),
            covers_before fun item among => early.trans (first' item among)]
      · have differs := same place'
        rw [covers, covers, if_pos le_rfl, if_neg (not_le.mpr more), covers_before first'] at differs
        exact ((Bool.eq_not_self _).mp differs).elim

theorem Ranges.single (ordered : low < high) : Ranges [(low, true), (high, false)] where
  ascending := by simp [Ascending, ordered]
  closed := .cons low (.cons high (.nil false))

theorem Ranges.eq_single_iff (ranges : Ranges items) :
    items = [(low, true), (high, false)] ↔
      low < high ∧ ∀ point, covers false items point = decide (low ≤ point ∧ point < high) := by
  have one (ordered : low < high) (point : K) : covers false [(low, true), (high, false)] point =
      decide (low ≤ point ∧ point < high) := by
    have added := @Ranges.covers_add K _ [] point low high .nil ordered
    exact added.trans (Bool.false_or _)
  constructor
  · rintro rfl
    have ordered : low < high :=
      (pairwise_cons.mp ranges.ascending).1 _ (mem_singleton.mpr rfl)
    exact ⟨ordered, one ordered⟩
  · rintro ⟨ordered, same⟩
    apply ranges.closed.unique (Ranges.single ordered).closed ranges.ascending
      (Ranges.single ordered).ascending
    intro point
    rw [same, one ordered]

def ends (range : K × K) : List (K × Bool) := [(range.1, true), (range.2, false)]

structure Apart (ranges : List (K × K)) : Prop where
  filled : ∀ range ∈ ranges, range.1 < range.2
  separate : ranges.Pairwise fun one two => one.2 < two.1

/-- A range of the set that lies in no larger one. -/
structure Maximal (inside : K → Prop) (low high : K) : Prop where
  filled : low < high
  inner : ∀ point, low ≤ point → point < high → inside point
  largest : ∀ low' high', low' ≤ low → high ≤ high' →
    (∀ point, low' ≤ point → point < high' → inside point) → low' = low ∧ high' = high

theorem Ranges.exists_ranges : ∀ {items : List (K × Bool)}, Ranges items →
    ∃ ranges : List (K × K), items = ranges.flatMap ends ∧ Apart ranges
  | [], _ => ⟨[], rfl, by simp, .nil⟩
  | [_], ⟨_, closed⟩ => by cases closed with | cons _ more => cases more
  | (low, first) :: (high, second) :: rest, ⟨ascending, closed⟩ => by
    obtain rfl := closed.head
    cases closed with
    | cons _ more =>
      obtain rfl := more.head
      cases more with
      | cons _ others =>
        obtain ⟨before, later⟩ := pairwise_cons.mp ascending
        obtain ⟨behind, sorted⟩ := pairwise_cons.mp later
        have tail : Ranges rest := ⟨sorted, others⟩
        obtain ⟨ranges, rfl, apart⟩ := Ranges.exists_ranges tail
        refine ⟨(low, high) :: ranges, rfl, ?_, ?_⟩
        · intro range among
          rcases mem_cons.mp among with rfl | among
          · exact before _ mem_cons_self
          · exact apart.filled range among
        · apply pairwise_cons.mpr ⟨_, apart.separate⟩
          intro range among
          apply behind (range.1, true)
          exact mem_flatMap.mpr ⟨range, among, mem_cons_self⟩

theorem covers_ends {ranges : List (K × K)} (apart : Apart ranges) :
    covers false (ranges.flatMap ends) point = true ↔
      ∃ range ∈ ranges, range.1 ≤ point ∧ point < range.2 := by
  induction ranges with
  | nil => simp [covers]
  | cons range rest ih =>
    obtain ⟨behind, separate⟩ := pairwise_cons.mp apart.separate
    have filled := apart.filled range mem_cons_self
    have others := ih ⟨fun other among => apart.filled other (mem_cons_of_mem _ among), separate⟩
    have same : covers false ((range :: rest).flatMap ends) point =
        if range.1 ≤ point then
          if range.2 ≤ point then covers false (rest.flatMap ends) point else true
        else false := rfl
    rw [same]
    simp only [mem_cons, exists_eq_or_imp]
    by_cases reached : range.1 ≤ point
    · by_cases passed : range.2 ≤ point
      · simp [reached, passed, others, not_lt.mpr passed]
      · simp [reached, passed, not_le.mp passed]
    · -- the point lies before all of them
      have none : ¬∃ other ∈ rest, other.1 ≤ point ∧ point < other.2 := by
        rintro ⟨other, among, started, _⟩
        exact reached (filled.le.trans ((behind other among).le.trans started))
      simp [reached, none]

theorem exists_between_of_forall_lt {places : List (K × K)} {first bound : K} (room : first < bound)
    (early : ∀ range ∈ places, range.2 < bound) :
    ∃ point, first ≤ point ∧ point < bound ∧ ∀ range ∈ places, range.2 ≤ point := by
  induction places with
  | nil => exact ⟨first, le_rfl, room, by simp⟩
  | cons range rest ih =>
    obtain ⟨point, from_first, below, passed⟩ :=
      ih fun other among => early other (mem_cons_of_mem _ among)
    have early := early range mem_cons_self
    refine ⟨max point range.2, from_first.trans (le_max_left _ _), max_lt below early, ?_⟩
    intro other among
    rcases mem_cons.mp among with rfl | among
    · exact le_max_right _ _
    · exact (passed other among).trans (le_max_left _ _)

theorem Apart.maximal_iff {ranges : List (K × K)} (apart : Apart ranges) {low high : K} :
    Maximal (fun point => ∃ range ∈ ranges, range.1 ≤ point ∧ point < range.2) low high ↔
      (low, high) ∈ ranges := by
  -- a listed range cannot be left, neither at its end nor at its beginning
  have listed {range : K × K} (among : range ∈ ranges) :
      Maximal (fun point => ∃ range ∈ ranges, range.1 ≤ point ∧ point < range.2)
        range.1 range.2 := by
    have filled := apart.filled range among
    obtain ⟨front, back, rfl⟩ := append_of_mem among
    obtain ⟨_, inner, crossing⟩ := pairwise_append.mp apart.separate
    have after := (pairwise_cons.mp inner).1
    have before : ∀ other ∈ front, other.2 < range.1 :=
      fun other among => crossing other among range mem_cons_self
    refine ⟨filled, fun point started stops => ⟨range, among, started, stops⟩, ?_⟩
    intro low' high' lower higher inside
    constructor
    · by_contra differs
      obtain ⟨point, from_low, early, passed⟩ :=
        exists_between_of_forall_lt (lower.lt_of_ne differs) before
      obtain ⟨other, among, started, stops⟩ := inside point from_low
        (early.trans (filled.trans_le higher))
      rcases mem_append.mp among with among | among
      · exact (passed other among).not_gt stops
      · rcases mem_cons.mp among with rfl | among
        · exact started.not_gt early
        · exact (started.trans_lt early).not_gt (filled.trans (after other among))
    · by_contra differs
      obtain ⟨other, among, started, stops⟩ := inside range.2 (lower.trans filled.le)
        (higher.lt_of_ne (Ne.symm differs))
      rcases mem_append.mp among with among | among
      · exact stops.not_gt ((before other among).trans filled)
      · rcases mem_cons.mp among with rfl | among
        · exact stops.false
        · exact started.not_gt (after other among)
  constructor
  · rintro ⟨filled, inner, largest⟩
    -- the range starts in a listed one, whose end it does not pass
    obtain ⟨range, among, started, stops⟩ := inner low le_rfl filled
    have bound : high ≤ range.2 := by
      by_contra passes
      have last := (listed among).largest range.1 high le_rfl (not_le.mp passes).le ?_
      · exact passes last.2.le
      · intro point begun ended
        by_cases early : point < range.2
        · exact ⟨range, among, begun, early⟩
        · exact inner point (stops.le.trans (not_lt.mp early)) ended
    obtain ⟨first, last⟩ := largest range.1 range.2 started bound (listed among).inner
    rw [← first, ← last]
    exact among
  · exact listed

end Boundaries
