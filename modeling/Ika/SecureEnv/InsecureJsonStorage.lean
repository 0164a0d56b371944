import Ika.Foundation.Base64
import Ika.SecureEnv.TpmStorage

/-! Storage in one JSON file, which every call reads and every write rewrites. -/

set_option autoImplicit false

namespace Ika.SecureEnv

open List Option

/-- What a file that was cut short holds is no content or no JSON. -/
def File.FileHasContent {Json : Type} : File Json → Bool
  | .missing => false
  | .empty => false
  | .garbage => true
  | .json _ => true

namespace InsecureJsonStorage

structure Base64 (Text : Type) where
  EncodeBase64 : List UInt8 → Text
  DecodeBase64 : Text → Option (List UInt8)
  decode_encode : ∀ data, DecodeBase64 (EncodeBase64 data) = some data

variable {Key Text : Type} [DecidableEq Key]

/-- The members of a JSON object. -/
abbrev Root (Key Text : Type) := List (Key × Text)

namespace Root

def get? (root : Root Key Text) (key : Key) : Option Text :=
  (root.find? fun member => member.1 = key).map Prod.snd

def isMember (root : Root Key Text) (key : Key) : Bool := (get? root key).isSome

def set (root : Root Key Text) (key : Key) (text : Text) : Root Key Text :=
  if isMember root key then
    root.map fun member => if member.1 = key then (key, text) else member
  else root ++ [(key, text)]

def reread (normal : Key → Key) (root : Root Key Text) : Root Key Text :=
  root.foldl (fun read member => set read (normal member.1) member.2) []

theorem get?_cons (member : Key × Text) (root : Root Key Text) (key : Key) :
    get? (member :: root) key = if member.1 = key then some member.2 else get? root key := by
  by_cases same : member.1 = key
  · simp [get?, same]
  · simp [get?, same]

theorem get?_none {root : Root Key Text} {key : Key} (absent : get? root key = none) :
    key ∉ root.map Prod.fst := by
  rw [get?, map_eq_none_iff, List.find?_eq_none] at absent
  intro listed
  obtain ⟨member, listed, same⟩ := List.mem_map.mp listed
  exact absent member listed (decide_eq_true same)

variable (root : Root Key Text) (key other : Key) (text : Text)

theorem get?_replace :
    get? (root.map fun member => if member.1 = key then (key, text) else member) other =
      if other = key then (get? root key).map fun _ => text else get? root other := by
  induction root with
  | nil => split_ifs <;> rfl
  | cons member rest ih =>
    rw [map_cons, get?_cons, ih, get?_cons, get?_cons]
    by_cases here : member.1 = key
    · by_cases same : other = key
      · simp [here, same]
      · have different : ¬ key = other := fun equal => same equal.symm
        simp [here, same, different]
    · by_cases same : other = key
      · simp [here, same]
      · simp [here, same]

theorem get?_append {key : Key} (absent : get? root key = none) (other : Key) (text : Text) :
    get? (root ++ [(key, text)]) other = if other = key then some text else get? root other := by
  induction root with
  | nil =>
    rw [nil_append, get?_cons]
    by_cases same : other = key
    · simp [same]
    · have different : ¬ key = other := fun equal => same equal.symm
      simp [same, different]
  | cons member rest ih =>
    rw [get?_cons] at absent
    split_ifs at absent with here
    rw [cons_append, get?_cons, ih absent, get?_cons]
    by_cases same : other = key
    · simp [here, same]
    · simp [same]

theorem get?_set :
    get? (set root key text) other = if other = key then some text else get? root other := by
  unfold set isMember
  cases stands : get? root key with
  | some before =>
    rw [if_pos (by rfl), get?_replace, stands]
    rfl
  | none =>
    rw [if_neg (by exact nofun)]
    exact get?_append root stands other text

theorem set_keys {root : Root Key Text} (keys : (root.map Prod.fst).Nodup) :
    ((set root key text).map Prod.fst).Nodup := by
  unfold set isMember
  cases stands : get? root key with
  | some before =>
    rw [if_pos (by rfl), List.map_map]
    have same : (Prod.fst ∘ fun member : Key × Text =>
        if member.1 = key then (key, text) else member) = Prod.fst := by
      funext member
      by_cases here : member.1 = key
      · simp [here]
      · simp [here]
    rwa [same]
  | none =>
    rw [if_neg (by exact nofun), map_append]
    exact nodup_append.mpr ⟨keys, nodup_singleton _, fun name old _ new => by
      cases mem_singleton.mp new
      rintro rfl
      exact get?_none stands old⟩

theorem mem_set {root : Root Key Text} {key : Key} {text : Text} {member : Key × Text}
    (listed : member ∈ set root key text) : member = (key, text) ∨ member ∈ root := by
  unfold set at listed
  split_ifs at listed
  · obtain ⟨before, was, rfl⟩ := List.mem_map.mp listed
    by_cases here : before.1 = key
    · exact .inl (if_pos here)
    · rw [if_neg here]
      exact .inr was
  · rcases mem_append.mp listed with old | new
    · exact .inr old
    · exact .inl (mem_singleton.mp new)

theorem reread_from {normal : Key → Key} (read : Root Key Text)
    (keys : ((read ++ root).map Prod.fst).Nodup)
    (readable : ∀ member ∈ root, normal member.1 = member.1) :
    root.foldl (fun read member => set read (normal member.1) member.2) read = read ++ root := by
  induction root generalizing read with
  | nil => rw [append_nil]; rfl
  | cons member rest ih =>
    have absent : get? read member.1 = none := by
      cases stands : get? read member.1 with
      | none => rfl
      | some text =>
        obtain ⟨before, found, -⟩ := map_eq_some_iff.mp stands
        have same : before.1 = member.1 := by simpa using find?_some found
        rw [map_append, nodup_append] at keys
        exact absurd same (keys.2.2 _ (List.mem_map_of_mem (mem_of_find?_eq_some found)) _
          (List.mem_map_of_mem (mem_cons_self ..)))
    have new : set read (normal member.1) member.2 = read ++ [member] := by
      rw [readable member (mem_cons_self ..), set, isMember, absent]
      rfl
    rw [foldl_cons, new, ih]
    · rw [append_assoc]
      rfl
    · rwa [append_assoc]
    · exact fun other listed => readable other (mem_cons_of_mem _ listed)

theorem reread_eq {normal : Key → Key} {root : Root Key Text} (keys : (root.map Prod.fst).Nodup)
    (readable : ∀ member ∈ root, normal member.1 = member.1) : reread normal root = root :=
  reread_from root [] keys readable

end Root

/-- How `WriteStringToFile` ends. -/
inductive Writing where
  | written
  | notOpened
  | failed (left : Damage)

abbrev State (Key Text : Type) := File (Root Key Text)

namespace State

variable (normal : Key → Key) (base64 : Base64 Text)

def ReadJson (state : State Key Text) : Option (Root Key Text) :=
  match state with
  | .json root => some (root.reread normal)
  | _ => none

def WriteJson (state : State Key Text) (root : Root Key Text) :
    Writing → KeyValue.Answer (List UInt8) × State Key Text
  | .written => (.done, .json root)
  | .notOpened => (.error, state)
  | .failed left => (.error, .damaged left)

def HasKey (state : State Key Text) (key : Key) : KeyValue.Answer (List UInt8) :=
  if state.FileHasContent then
    match ReadJson normal state with
    | none => .error
    | some root => .found (root.isMember key)
  else .found false

def Read (state : State Key Text) (key : Key) : KeyValue.Answer (List UInt8) :=
  match ReadJson normal state with
  | none => .error
  | some root =>
    match root.get? key with
    | none => .error
    | some text =>
      match base64.DecodeBase64 text with
      | none => .error
      | some data => .data data

def Write (state : State Key Text) (key : Key) (data : List UInt8) (writing : Writing) :
    KeyValue.Answer (List UInt8) × State Key Text :=
  match if state.FileHasContent then ReadJson normal state else some [] with
  | none => (.error, state)
  | some root => WriteJson state (root.set key (base64.EncodeBase64 data)) writing

end State

inductive Event (Key : Type) where
  | HasKey (key : Key)
  | Read (key : Key)
  | Write (key : Key) (data : List UInt8) (writing : Writing)
  | restart

def store (normal : Key → Key) (base64 : Base64 Text) :
    KeyValue.Store Key (List UInt8) (State Key Text) (Event Key) where
  call
    | .HasKey key => .HasKey key
    | .Read key => .Read key
    | .Write key data _ => .Write key data
    | .restart => .restart
  step state
    | .HasKey key => (State.HasKey normal state key, state)
    | .Read key => (State.Read normal base64 state key, state)
    | .Write key data writing => State.Write normal base64 state key data writing
    | .restart => (.done, state)

/-- Keys can be read back, and no write fails behind the truncation of contents. -/
def Allowed (normal : Key → Key) (state : State Key Text) : Event Key → Prop
  | .Write key _ .written => normal key = key
  | .Write _ _ (.failed left) =>
    state.FileHasContent = false ∧ (File.damaged left : State Key Text).FileHasContent = false
  | _ => True

def Represents (normal : Key → Key) (base64 : Base64 Text) (state : State Key Text)
    (map : Key → Option (List UInt8)) : Prop :=
  ∃ root : Root Key Text, (root.map Prod.fst).Nodup ∧
    (∀ member ∈ root, normal member.1 = member.1) ∧
    (∀ key, root.get? key = (map key).map base64.EncodeBase64) ∧
    (state = .json root ∨ state.FileHasContent = false ∧ root = [])

namespace Represents

variable {normal : Key → Key} {base64 : Base64 Text} {state : State Key Text}
  {map : Key → Option (List UInt8)}

theorem start : Represents normal base64 .missing fun _ => none :=
  ⟨[], nodup_nil, nofun, fun _ => rfl, .inr ⟨rfl, rfl⟩⟩

variable {root : Root Key Text}

theorem nothing (root_nil : root = [])
    (members : ∀ key, root.get? key = (map key).map base64.EncodeBase64) (key : Key) :
    map key = none := by
  subst root_nil
  exact map_eq_none_iff.mp (members key).symm

theorem ReadJson_none {state : State Key Text} (empty : state.FileHasContent = false) :
    State.ReadJson normal state = none := by
  cases state with
  | missing => rfl
  | empty => rfl
  | garbage => cases empty
  | json root => cases empty

theorem HasKey_eq (represents : Represents normal base64 state map) (key : Key) :
    State.HasKey normal state key = .found (map key).isSome := by
  obtain ⟨root, keys, readable, members, rfl | ⟨empty, root_nil⟩⟩ := represents
  · have read : State.ReadJson normal (.json root) = some root :=
      congrArg some (Root.reread_eq keys readable)
    rw [State.HasKey, if_pos (by rfl), read]
    dsimp only
    rw [Root.isMember, members key, isSome_map]
  · rw [State.HasKey, if_neg (by rw [empty]; exact nofun), nothing root_nil members key]
    rfl

theorem Read_eq (represents : Represents normal base64 state map) (key : Key) :
    State.Read normal base64 state key =
      match map key with
      | none => .error
      | some data => .data data := by
  obtain ⟨root, keys, readable, members, rfl | ⟨empty, root_nil⟩⟩ := represents
  · have read : State.ReadJson normal (.json root) = some root :=
      congrArg some (Root.reread_eq keys readable)
    rw [State.Read, read]
    dsimp only
    rw [members key]
    cases stored : map key with
    | none => rfl
    | some data =>
      rw [map_some]
      dsimp only
      rw [base64.decode_encode]
  · rw [State.Read, ReadJson_none empty, nothing root_nil members key]

theorem members_read (keys : (root.map Prod.fst).Nodup)
    (readable : ∀ member ∈ root, normal member.1 = member.1)
    (stands : state = .json root ∨ state.FileHasContent = false ∧ root = []) :
    (if state.FileHasContent then State.ReadJson normal state else some []) = some root := by
  rcases stands with rfl | ⟨empty, rfl⟩
  · exact (if_pos rfl).trans (congrArg some (Root.reread_eq keys readable))
  · rw [empty]
    rfl

theorem write (represents : Represents normal base64 state map) {key : Key} {data : List UInt8}
    {writing : Writing} (allowed : Allowed normal state (.Write key data writing)) :
    ∃ after, KeyValue.Admits map (.Write key data)
        (State.Write normal base64 state key data writing).1 after ∧
      Represents normal base64 (State.Write normal base64 state key data writing).2 after := by
  obtain ⟨root, keys, readable, members, stands⟩ := represents
  rw [State.Write, members_read keys readable stands]
  dsimp only
  cases writing with
  | written =>
    refine ⟨_, .written key data, root.set key (base64.EncodeBase64 data), Root.set_keys _ _ keys,
      ?_, ?_, .inl rfl⟩
    · intro member listed
      rcases Root.mem_set listed with rfl | old
      · exact allowed
      · exact readable member old
    · intro other
      rw [Root.get?_set, Function.update_apply]
      split_ifs
      · rfl
      · exact members other
  | notOpened => exact ⟨map, .refused key data, root, keys, readable, members, stands⟩
  | failed left =>
    obtain ⟨before, after⟩ := allowed
    rcases stands with rfl | ⟨-, rfl⟩
    · cases before
    · exact ⟨map, .refused key data, [], keys, readable, members, .inr ⟨after, rfl⟩⟩

theorem step (represents : Represents normal base64 state map) {event : Event Key}
    (allowed : Allowed normal state event) :
    ∃ after, KeyValue.Admits map ((store normal base64).call event)
        ((store normal base64).step state event).1 after ∧
      Represents normal base64 ((store normal base64).step state event).2 after := by
  cases event with
  | HasKey key =>
    refine ⟨map, ?_, represents⟩
    change KeyValue.Admits map (.HasKey key) (State.HasKey normal state key) map
    rw [represents.HasKey_eq key]
    exact .hasKey key
  | Read key =>
    refine ⟨map, ?_, represents⟩
    change KeyValue.Admits map (.Read key) (State.Read normal base64 state key) map
    rw [represents.Read_eq key]
    cases stored : map key with
    | none => exact .missing stored
    | some data => exact .read stored
  | Write key data writing => exact represents.write allowed
  | restart => exact ⟨map, .restarted, represents⟩

end Represents

end InsecureJsonStorage

/-- Each storage answers as a map does, in every run whose steps are allowed. -/
theorem storages_behave {Key Text : Type} [DecidableEq Key] (normal : Key → Key)
    (base64 : InsecureJsonStorage.Base64 Text) (nv : Nat → Option TpmStorage.Space) :
    (∀ events, (TpmStorage.store normal).Meets (TpmStorage.Allowed normal) (.start nv) events →
      KeyValue.Behaves (fun _ => none) ((TpmStorage.store normal).trace (.start nv) events)) ∧
    ∀ events, (InsecureJsonStorage.store normal base64).Meets (InsecureJsonStorage.Allowed normal)
        .missing events →
      KeyValue.Behaves (fun _ => none)
        ((InsecureJsonStorage.store normal base64).trace .missing events) := by
  constructor
  · intro events meets
    exact (TpmStorage.store normal).behaves (TpmStorage.Represents normal)
      (fun _ _ _ represents allowed => represents.step allowed) (TpmStorage.Represents.start nv) events
      meets
  · intro events meets
    exact (InsecureJsonStorage.store normal base64).behaves
      (InsecureJsonStorage.Represents normal base64)
      (fun _ _ _ represents allowed => represents.step allowed) InsecureJsonStorage.Represents.start
      events meets

instance {Key : Type} [DecidableEq Key] (normal : Key → Key) (state : TpmStorage.State Key)
    (event : TpmStorage.Event Key) : Decidable (TpmStorage.Allowed normal state event) := by
  cases event with
  | Write key data env =>
    unfold TpmStorage.Allowed
    dsimp only
    cases TpmStorage.GetHandle state.index_ key <;> infer_instance
  | _ => unfold TpmStorage.Allowed; infer_instance

instance {Key Text : Type} [DecidableEq Key] (normal : Key → Key)
    (state : InsecureJsonStorage.State Key Text) (event : InsecureJsonStorage.Event Key) :
    Decidable (InsecureJsonStorage.Allowed normal state event) := by
  cases event with
  | Write key data writing => cases writing <;> unfold InsecureJsonStorage.Allowed <;> infer_instance
  | _ => unfold InsecureJsonStorage.Allowed; infer_instance

def base64 : InsecureJsonStorage.Base64 (List Char) where
  EncodeBase64 := Base64.encode
  DecodeBase64 := Base64.decode
  decode_encode := Base64.decode_encode

def shared (handle : Nat) : Option TpmStorage.Space :=
  if handle = TpmStorage.GenerateRandomHandle 5 then some ⟨[1, 2], true⟩ else none

/-- The TPM draws one random number, and nothing fails. -/
def draws (random : Nat) : TpmStorage.Env where
  attempts _ := {random, refused := false}
  saving := .saved
  nvWrite := true

def twoKeys : List (TpmStorage.Event String) :=
  [.HasKey "0", .Write "0" [1, 2, 3] (draws 7), .Write "oemlock_state" [7] (draws 8),
    .Write "0" [4, 5, 6] (draws 9), .Write "0" [1, 2, 3, 4] (draws 9), .restart, .Read "0",
    .Read "oemlock_state"]

def twoMembers : List (InsecureJsonStorage.Event String) :=
  [.Read "0", .Write "0" [1, 2, 3] .written, .Write "oemlock_state" [7] .written,
    .Write "0" [4, 5] .written, .Write "0" [1] .notOpened, .restart, .Read "0",
    .HasKey "oemlock_state"]

theorem storages_behave_twoKeys :
    KeyValue.Behaves (fun _ => none) ((TpmStorage.store id).trace (.start shared) twoKeys) ∧
    KeyValue.Behaves (fun _ => none)
      ((InsecureJsonStorage.store id base64).trace .missing twoMembers) :=
  ⟨(storages_behave id base64 shared).1 twoKeys (by decide +kernel),
    (storages_behave id base64 shared).2 twoMembers (by decide +kernel)⟩

def shrinking : List (TpmStorage.Event String) :=
  [.Write "0" [1, 2, 3] (draws 7), .Write "0" [4] (draws 7), .Read "0"]

def colliding : List (TpmStorage.Event String) :=
  [.Write "0" [1, 2, 3] (draws 7), .Write "1" [4, 5, 6] (draws 7), .Read "0"]

def undefinedSpace : List (TpmStorage.Event String) :=
  [.Write "0" [1, 2, 3] {draws 7 with attempts := fun _ => {random := 7, refused := true}},
    .HasKey "0"]

def unsaved : List (TpmStorage.Event String) :=
  [.Write "0" [1, 2, 3] (draws 7),
    .Write "1" [4] {draws 8 with saving := .damaged .truncated true}, .restart, .Read "0"]

def lost : List (InsecureJsonStorage.Event String) :=
  [.Write "0" [1, 2, 3] .written, .Write "1" [4] (.failed .removed), .Read "0"]

theorem storages_misbehave :
    ¬ KeyValue.Behaves (fun _ => none) ((TpmStorage.store id).trace (.start shared) [.Read "0"]) ∧
    ¬ KeyValue.Behaves (fun _ => none) ((TpmStorage.store id).trace (.start shared) shrinking) ∧
    ¬ KeyValue.Behaves (fun _ => none) ((TpmStorage.store id).trace (.start shared) colliding) ∧
    ¬ KeyValue.Behaves (fun _ => none)
      ((TpmStorage.store id).trace (.start shared) undefinedSpace) ∧
    ¬ KeyValue.Behaves (fun _ => none) ((TpmStorage.store id).trace (.start shared) unsaved) ∧
    ¬ KeyValue.Behaves (fun _ => none)
      ((InsecureJsonStorage.store id base64).trace .missing lost) := by
  refine ⟨?_, ?_, ?_, ?_, ?_, ?_⟩ <;> decide +kernel

end Ika.SecureEnv
