import Ika.InputConnector.Slots

/-! What the events of one contact, and of one call, make the guest see. -/

set_option autoImplicit false

namespace Ika.InputConnector

open List Function

section Replay

variable (screen : Screen) (f : MultitouchSlot) (slot : Nat)

theorem Screen.replay_down (tracking : Option Int32) :
    (screen.replay (contactEvents f true slot tracking)).slots =
        Function.update screen.slots (Int32.ofNat slot)
          ⟨tracking.getD (screen.slots (Int32.ofNat slot)).tracking, f.x, f.y⟩ ∧
      (screen.replay (contactEvents f true slot tracking)).touch =
        (tracking.isSome || screen.touch) := by
  cases tracking <;> simp [contactEvents, Screen.modify]

theorem Screen.replay_up :
    (screen.replay (contactEvents f false slot none)).slots =
        Function.update screen.slots (Int32.ofNat slot)
          {screen.slots (Int32.ofNat slot) with tracking := -1} ∧
      (screen.replay (contactEvents f false slot none)).touch = false := by
  simp [contactEvents, Screen.modify]

end Replay

def Live.ids (live : Live) : List Int32 := live.map (·.1.2)

def Separate (slotAt : Int32 → Option Nat) : Prop :=
  ∀ one two slot other, slotAt one = some slot → slotAt two = some other →
    Int32.ofNat slot = Int32.ofNat other → one = two

/-- The slot that is kept for the id shows each live contact, and no slot shows another. -/
structure Mirrors (screen : Screen) (slotAt : Int32 → Option Nat) (live : Live) : Prop where
  held : ∀ contact ∈ live, ∃ slot, slotAt contact.1.2 = some slot ∧
    (screen.slots (Int32.ofNat slot)).Occupied ∧
    (screen.slots (Int32.ofNat slot)).x = contact.2.1 ∧
    (screen.slots (Int32.ofNat slot)).y = contact.2.2
  only : ∀ slot, (screen.slots slot).Occupied →
    ∃ contact ∈ live, ∃ own, slotAt contact.1.2 = some own ∧ slot = Int32.ofNat own

variable {screen : Screen} {slotAt slotAt' : Int32 → Option Nat} {live : Live} {sink : Sink}
  {f : MultitouchSlot} {slot : Nat}

variable {contact : (Sink × Int32) × Int32 × Int32}

theorem Live.mem_report_up :
    contact ∈ live.report sink false f ↔ contact ∈ live ∧ contact.1 ≠ (sink, f.id) := by
  simp [Live.report]

theorem Live.mem_report_down :
    contact ∈ live.report sink true f ↔ contact = ((sink, f.id), f.x, f.y) ∨
      contact ∈ live ∧ contact.1 ≠ (sink, f.id) := by
  simp [Live.report]

def OwnedBy (sink : Sink) (live : Live) (id : Int32) : Prop :=
  ∀ contact ∈ live, contact.1.2 = id → contact.1.1 = sink

theorem OwnedBy.other (own : OwnedBy sink live f.id) (mem : contact ∈ live)
    (apart : contact.1 ≠ (sink, f.id)) : contact.1.2 ≠ f.id :=
  fun same => apart (Prod.ext (own contact mem same) same)

theorem Live.mem_ids_report {down : Bool} {id : Int32} (own : OwnedBy sink live f.id) :
    id ∈ (live.report sink down f).ids ↔ (down = true ∧ id = f.id) ∨ (id ≠ f.id ∧ id ∈ live.ids) := by
  have others : id ∈ (live.report sink false f).ids ↔ id ≠ f.id ∧ id ∈ live.ids := by
    simp only [Live.ids, mem_map, Live.mem_report_up]
    constructor
    · rintro ⟨contact, ⟨mem, apart⟩, rfl⟩
      exact ⟨own.other mem apart, contact, mem, rfl⟩
    · rintro ⟨apart, contact, mem, rfl⟩
      exact ⟨contact, ⟨mem, fun same => apart (congrArg Prod.snd same)⟩, rfl⟩
  cases down with
  | false => simp [others]
  | true =>
    have split : (live.report sink true f).ids = f.id :: (live.report sink false f).ids := rfl
    rw [split, mem_cons, others]
    simp

theorem Live.nodup_report {down : Bool} (own : OwnedBy sink live f.id) (once : live.ids.Nodup) :
    (live.report sink down f).ids.Nodup := by
  have others : (live.report sink false f).ids.Nodup :=
    once.sublist (filter_sublist.map _)
  cases down with
  | false => exact others
  | true =>
    refine nodup_cons.mpr ⟨fun mem => ?_, others⟩
    have still : f.id ∈ (live.report sink false f).ids := mem
    rw [Live.mem_ids_report own] at still
    simp at still

namespace Mirrors

section

variable (mirrors : Mirrors screen slotAt live)
include mirrors

theorem mono (grows : ∀ id slot, slotAt id = some slot → slotAt' id = some slot) :
    Mirrors screen slotAt' live where
  held contact mem := by
    obtain ⟨slot, found, shown⟩ := mirrors.held contact mem
    exact ⟨slot, grows _ _ found, shown⟩
  only slot taken := by
    obtain ⟨contact, mem, own, found, same⟩ := mirrors.only slot taken
    exact ⟨contact, mem, own, grows _ _ found, same⟩

theorem down (separate : Separate slotAt)
    (own : OwnedBy sink live f.id) (found : slotAt f.id = some slot) {tracking : Option Int32}
    (new : tracking.isSome = true ↔ f.id ∉ live.ids) (valid : tracking ≠ some (-1)) :
    Mirrors (screen.replay (contactEvents f true slot tracking)) slotAt
      (live.report sink true f) := by
  obtain ⟨slots, _⟩ := screen.replay_down f slot tracking
  constructor
  · intro contact mem
    rw [slots]
    rcases Live.mem_report_down.mp mem with rfl | ⟨mem, apart⟩
    · refine ⟨slot, found, ?_, by simp, by simp⟩
      rw [update_self]
      cases tracking with
      | some id => simpa [Contact.Occupied] using valid
      | none =>
        -- the contact was there before, in the same slot
        have known : f.id ∈ live.ids := by simpa using new
        obtain ⟨contact, mem, same⟩ := mem_map.mp known
        obtain ⟨own, found', occupied, _⟩ := mirrors.held contact mem
        rw [same, found] at found'
        cases found'
        exact occupied
    · obtain ⟨other, found', shown⟩ := mirrors.held contact mem
      refine ⟨other, found', ?_⟩
      have elsewhere : Int32.ofNat other ≠ Int32.ofNat slot := fun same =>
        own.other mem apart (separate _ _ _ _ found' found same)
      rwa [update_of_ne elsewhere]
  · intro taken occupied
    rw [slots] at occupied
    by_cases here : taken = Int32.ofNat slot
    · exact ⟨_, Live.mem_report_down.mpr (.inl rfl), slot, found, here⟩
    · rw [update_of_ne here] at occupied
      obtain ⟨contact, mem, other, found', same⟩ := mirrors.only taken occupied
      refine ⟨contact, Live.mem_report_down.mpr (.inr ⟨mem, fun key => here ?_⟩), other, found', same⟩
      have id : contact.1.2 = f.id := congrArg Prod.snd key
      rw [id, found] at found'
      cases found'
      exact same

theorem up (separate : Separate slotAt)
    (own : OwnedBy sink live f.id) (found : slotAt f.id = some slot)
    (agree : ∀ id, id ≠ f.id → slotAt' id = slotAt id) :
    Mirrors (screen.replay (contactEvents f false slot none)) slotAt'
      (live.report sink false f) := by
  obtain ⟨slots, _⟩ := screen.replay_up f slot
  constructor
  · intro contact mem
    obtain ⟨mem, apart⟩ := Live.mem_report_up.mp mem
    obtain ⟨other, found', shown⟩ := mirrors.held contact mem
    have elsewhere : Int32.ofNat other ≠ Int32.ofNat slot := fun same =>
      own.other mem apart (separate _ _ _ _ found' found same)
    refine ⟨other, by rw [agree _ (own.other mem apart), found'], ?_⟩
    rwa [slots, update_of_ne elsewhere]
  · intro taken occupied
    rw [slots] at occupied
    have elsewhere : taken ≠ Int32.ofNat slot := by
      rintro rfl
      simp [Contact.Occupied] at occupied
    rw [update_of_ne elsewhere] at occupied
    obtain ⟨contact, mem, other, found', same⟩ := mirrors.only taken occupied
    have apart : contact.1.2 ≠ f.id := by
      intro id
      rw [id, found] at found'
      cases found'
      exact elsewhere same
    exact ⟨contact, Live.mem_report_up.mpr ⟨mem, fun key => apart (congrArg Prod.snd key)⟩, other,
      by rw [agree _ apart, found'], same⟩

theorem shows (separate : Separate slotAt)
    (once : live.ids.Nodup) (touch : screen.touch = true ↔ live ≠ []) : Shows screen live := by
  refine ⟨⟨fun contact => Int32.ofNat ((slotAt contact.2).getD 0), ?_, ?_, ?_⟩, touch⟩
  · intro contact mem
    obtain ⟨slot, found, shown⟩ := mirrors.held contact mem
    simpa only [found, Option.getD_some] using shown
  · intro one first two second same
    obtain ⟨slot, found, _⟩ := mirrors.held one first
    obtain ⟨other, found', _⟩ := mirrors.held two second
    simp only [found, found', Option.getD_some] at same
    exact inj_on_of_nodup_map once first second (separate _ _ _ _ found found' same)
  · intro taken occupied
    obtain ⟨contact, mem, own, found, same⟩ := mirrors.only taken occupied
    exact ⟨contact, mem, by simp only [found, Option.getD_some, same]⟩

end

end Mirrors

/-- A contact with the slot it was given, and the tracking id if it was new. -/
abbrev Placed := MultitouchSlot × Nat × Option Int32

def events (placed : List Placed) : List InputEvent :=
  placed.flatMap fun one => contactEvents one.1 true one.2.1 one.2.2

def Fits (slotAt : Int32 → Option Nat) (known : Int32 → Prop) : List Placed → Prop
  | [] => True
  | (f, slot, tracking) :: rest => slotAt f.id = some slot ∧
      (tracking.isSome = true ↔ ¬known f.id) ∧ tracking ≠ some (-1) ∧
      Fits slotAt (fun id => known id ∨ id = f.id) rest

variable {known known' : Int32 → Prop} {placed : List Placed}

theorem Fits.mono (fits : Fits slotAt known placed)
    (grows : ∀ id slot, slotAt id = some slot → slotAt' id = some slot)
    (same : ∀ one ∈ placed, (known' one.1.id ↔ known one.1.id)) : Fits slotAt' known' placed := by
  induction placed generalizing known known' with
  | nil => trivial
  | cons one rest ih =>
    obtain ⟨found, new, valid, fits⟩ := fits
    refine ⟨grows _ _ found, ?_, valid, ih fits ?_⟩
    · rw [new, same _ mem_cons_self]
    · exact fun other mem => or_congr_left (same other (mem_cons_of_mem _ mem))

theorem Fits.found (fits : Fits slotAt known placed) {id : Int32}
    (mem : id ∈ placed.map fun one => one.1.id) : ∃ slot, slotAt id = some slot := by
  induction placed generalizing known with
  | nil => cases mem
  | cons one rest ih =>
    rcases mem_cons.mp mem with rfl | mem
    · exact ⟨_, fits.1⟩
    · exact ih fits.2.2.2 mem

theorem Fits.snoc {tracking : Option Int32} (fits : Fits slotAt known placed)
    (found : slotAt f.id = some slot)
    (new : tracking.isSome = true ↔ ¬(known f.id ∨ f.id ∈ placed.map fun one => one.1.id))
    (valid : tracking ≠ some (-1)) : Fits slotAt known (placed ++ [(f, slot, tracking)]) := by
  induction placed generalizing known with
  | nil => exact ⟨found, by simpa using new, valid, trivial⟩
  | cons one rest ih =>
    refine ⟨fits.1, fits.2.1, fits.2.2.1, ih fits.2.2.2 ?_⟩
    rw [new, map_cons, mem_cons, or_assoc]

theorem Mirrors.downs (mirrors : Mirrors screen slotAt live) (separate : Separate slotAt)
    (once : live.ids.Nodup) (touch : screen.touch = true ↔ live ≠ [])
    (own : ∀ one ∈ placed, OwnedBy sink live one.1.id) (fits : Fits slotAt (· ∈ live.ids) placed) :
    Mirrors (screen.replay (events placed)) slotAt
        (live.reportAll sink true (placed.map Prod.fst)) ∧
      (live.reportAll sink true (placed.map Prod.fst)).ids.Nodup ∧
      ((screen.replay (events placed)).touch = true ↔
        live.reportAll sink true (placed.map Prod.fst) ≠ []) ∧
      ∀ id, id ∈ (live.reportAll sink true (placed.map Prod.fst)).ids ↔
        id ∈ live.ids ∨ id ∈ placed.map fun one => one.1.id := by
  induction placed generalizing screen live with
  | nil => exact ⟨mirrors, once, touch, by simp [Live.reportAll]⟩
  | cons one rest ih =>
    obtain ⟨f, slot, tracking⟩ := one
    obtain ⟨found, new, valid, fits⟩ := fits
    have owned := own _ mem_cons_self
    have touched := (screen.replay_down f slot tracking).2
    have ids : ∀ id, id ∈ (live.report sink true f).ids ↔ id ∈ live.ids ∨ id = f.id := by
      intro id
      rw [Live.mem_ids_report owned]
      by_cases same : id = f.id <;> simp [same]
    have more := ih (mirrors.down separate owned found new valid) (Live.nodup_report owned once)
      (by
        rw [touched]
        simp only [Live.report, if_true, ne_eq, cons_ne_nil, not_false_eq_true, iff_true]
        cases tracking with
        | some id => rfl
        | none =>
          have known : f.id ∈ live.ids := by simpa using new
          have any : live ≠ [] := by
            rintro rfl
            simp [Live.ids] at known
          simpa using touch.mpr any)
      (fun other mem contact held same => by
        rcases Live.mem_report_down.mp held with rfl | ⟨held, _⟩
        · rfl
        · exact own other (mem_cons_of_mem _ mem) contact held same)
      (fits.mono (fun _ _ found => found) fun other _ => ids _)
    have split : events ((f, slot, tracking) :: rest) =
      contactEvents f true slot tracking ++ events rest := rfl
    rw [split, Screen.replay_append]
    refine ⟨more.1, more.2.1, more.2.2.1, fun id => ?_⟩
    refine (more.2.2.2 id).trans ?_
    rw [ids, map_cons, mem_cons, or_assoc]

end Ika.InputConnector
