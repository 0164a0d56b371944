import Mathlib.Data.List.Induction
import Mathlib.Data.List.TakeWhile
import Ika.Gamepad.Spec

/-! `Config.scanSpec`, the loops of `kg_parse_spec`, reads what `Config.parseSpec` splits. -/

set_option autoImplicit false

namespace Ika.Gamepad.Config

open List

variable (sdl : Sdl) (config : Config)

/-- The keys that an item names for a control, in their order. -/
def named (item : CString) : List Binding :=
  match findControl (item.takeWhile (· ≠ '=')), item.dropWhile (· ≠ '=') with
  | some control, _ :: keys =>
    ((keys.splitOn '/').filter (· ≠ [])).filterMap fun key =>
      (parseInput sdl key).map fun source => ⟨source, control⟩
  | _, _ => []

def numbers : List (String × Nat × Nat) :=
  [("ramp_ms", 0, kgMaxRampMs), ("walk_percent", 1, 100), ("mouse_sensitivity", 1, 1000)]

/-- An item without a name that is known, or a setting with a value that is not one of it. -/
inductive Skipped : CString → Prop
  | bare (item : CString) (none : '=' ∉ item) : Skipped item
  | unknown (name value : CString) (plain : '=' ∉ name) (control : findControl name = none)
      (number : ∀ setting ∈ numbers, setting.1.toList ≠ name) (mouse : name ≠ "mouse_stick".toList)
      (socd : name ≠ "socd".toList) (pad : ∀ setting ∈ padSettings, setting.1.toList ≠ name) :
      Skipped (name ++ '=' :: value)
  | number (setting : String × Nat × Nat) (known : setting ∈ numbers) (value : CString)
      (outside : parseNumber value setting.2.1 setting.2.2 = none) :
      Skipped (setting.1.toList ++ '=' :: value)
  | mouse (value : CString) (other : value ∉ ["off", "right", "left"].map String.toList) :
      Skipped ("mouse_stick".toList ++ '=' :: value)
  | socd (name : String) (known : name = "socd" ∨ ∃ setting ∈ padSettings, setting.1 = name)
      (value : CString) (other : parseSocd value = none) : Skipped (name.toList ++ '=' :: value)

theorem scanKeys_eq (control : Control) (keys : CString) :
    config.scanKeys sdl control keys = ((keys.splitOn '/').filter (· ≠ [])).foldl
      (fun config key => config.addKey sdl control key) config := by
  have skips : ∀ config : Config, (if ([] : CString) = [] then config
      else config.addKey sdl control []) = config := fun _ => if_pos rfl
  unfold scanKeys
  rw [Splitting.walk_eq skips, foldl_filter]
  congr
  funext config key
  by_cases none_ : key = [] <;> simp [none_]

theorem scanItem_eq (item : CString) : config.scanItem sdl item = config.parseItem sdl item := by
  have rest : item.drop (item.takeWhile (· ≠ '=')).length = item.dropWhile (· ≠ '=') := by
    conv => lhs; arg 2; rw [← item.takeWhile_append_dropWhile (p := (· ≠ '='))]
    rw [drop_left]
  unfold scanItem parseItem
  dsimp only
  rw [rest]
  cases item.dropWhile (· ≠ '=') with
  | nil => rfl
  | cons _ value =>
    dsimp only
    cases findControl (item.takeWhile (· ≠ '=')) with
    | none => rfl
    | some control => exact scanKeys_eq sdl config control value

theorem scanSpec_eq (spec : CString) : config.scanSpec sdl spec = config.parseSpec sdl spec := by
  unfold scanSpec parseSpec
  rw [Splitting.walk_eq fun _ => rfl]
  congr
  funext config item
  exact scanItem_eq sdl config item

theorem foldl_addKey (control : Control) (keys : List CString) :
    keys.foldl (fun config key => config.addKey sdl control key) config = {config with
      bindings := (keys.filterMap fun key =>
        (parseInput sdl key).map fun source => ⟨source, control⟩).foldl Bindings.add
          config.bindings} := by
  induction keys generalizing config with
  | nil => rfl
  | cons key rest ih =>
    rw [foldl_cons, ih]
    unfold addKey
    cases known : parseInput sdl key <;> simp [known]

theorem parseItem_control {item : CString} {control : Control}
    (known : findControl (item.takeWhile (· ≠ '=')) = some control) :
    config.parseItem sdl item = {config with
      bindings := (named sdl item).foldl Bindings.add config.bindings} := by
  unfold parseItem named
  cases item.dropWhile (· ≠ '=') with
  | nil =>
    rw [known]
    rfl
  | cons _ value =>
    dsimp only
    rw [known]
    exact foldl_addKey sdl config control _

theorem bindings_parseSetting (name value : CString) :
    ((config.parseSetting name value).getD config).bindings = config.bindings := by
  unfold parseSetting
  split_ifs
  all_goals try rfl
  cases padSettings.find? fun setting => setting.1.toList = name <;> rfl

theorem bindings_parseItem (item : CString) :
    (config.parseItem sdl item).bindings = (named sdl item).foldl Bindings.add config.bindings := by
  cases known : findControl (item.takeWhile (· ≠ '=')) with
  | some control => rw [parseItem_control sdl config known]
  | none =>
    unfold parseItem named
    cases item.dropWhile (· ≠ '=') with
    | nil =>
      rw [known]
      rfl
    | cons _ value =>
      dsimp only
      rw [known]
      exact bindings_parseSetting config _ value

theorem bindings_parseSpec (spec : CString) :
    (config.parseSpec sdl spec).bindings =
      ((spec.splitOn ',').flatMap (named sdl)).foldl Bindings.add config.bindings := by
  unfold parseSpec
  generalize spec.splitOn ',' = items
  induction items generalizing config with
  | nil => rfl
  | cons item rest ih => rw [foldl_cons, ih, bindings_parseItem, flatMap_cons,
      foldl_append]

end Ika.Gamepad.Config

namespace Ika.Gamepad.Bindings

open List

variable (bindings : Bindings)

theorem list_add (new : Binding) :
    (bindings.add new).list =
      if new.source ∈ bindings.list.map (·.source) ∨ bindings.list.length = kgMaxKeys then
        bindings.list
      else bindings.list ++ [new] := by
  unfold add
  split_ifs <;> simp_all

theorem foldl_add_all (asked : List Binding) {binding : Binding}
    (mem : binding ∈ bindings.list ++ asked) :
    binding.source ∈ (asked.foldl add bindings).list.map (·.source) ∨
      (asked.foldl add bindings).list.length = kgMaxKeys := by
  induction asked using List.reverseRecOn with
  | nil => exact .inl (mem_map_of_mem (by simpa using mem))
  | append_singleton asked new ih =>
    rw [foldl_append, foldl_cons, foldl_nil, list_add]
    rw [← append_assoc, mem_append, mem_singleton] at mem
    split
    · next stays =>
      rcases mem with before | rfl
      · exact ih before
      · exact stays
    · rcases mem with before | rfl
      · rw [map_append, mem_append]
        exact .inl (.inl ((ih before).resolve_right fun full => by simp_all))
      · simp

theorem foldl_add_first (asked : List Binding) {binding : Binding}
    (mem : binding ∈ (asked.foldl add bindings).list) :
    (bindings.list ++ asked).find? (·.source = binding.source) = some binding := by
  induction asked using List.reverseRecOn with
  | nil =>
    have distinct := bindings.distinct
    rw [append_nil]
    change binding ∈ bindings.list at mem
    generalize bindings.list = list at distinct mem
    induction list with
    | nil => cases mem
    | cons first rest ih =>
      rw [map_cons, nodup_cons] at distinct
      rcases mem_cons.1 mem with rfl | later
      · simp
      · have other : first.source ≠ binding.source := fun same =>
          distinct.1 (same ▸ mem_map_of_mem later)
        simpa [other] using ih distinct.2 later
  | append_singleton asked new ih =>
    rw [foldl_append, foldl_cons, foldl_nil, list_add] at mem
    rw [← append_assoc, find?_append]
    split at mem
    · rw [ih mem]
      rfl
    · next adds =>
      rcases mem_append.1 mem with before | last
      · rw [ih before]
        rfl
      · rw [mem_singleton] at last
        subst last
        rw [List.find?_eq_none.2]
        · simp
        · intro earlier among same
          have bound := foldl_add_all bindings asked among
          rw [of_decide_eq_true same] at bound
          exact adds bound

end Ika.Gamepad.Bindings

namespace Ika.Gamepad.Config

open List

theorem scanItem_named (sdl : Sdl) (config : Config) {name : CString} (value : CString)
    (plain : '=' ∉ name) (control : findControl name = none) :
    config.scanItem sdl (name ++ '=' :: value) = (config.parseSetting name value).getD config := by
  have before : (name ++ '=' :: value).takeWhile (· ≠ '=') = name := by
    rw [takeWhile_append_of_pos fun char mem => by
      simpa using fun same : char = '=' => plain (same ▸ mem)]
    simp
  unfold scanItem
  dsimp only
  rw [before, drop_left]
  dsimp only
  rw [control]

theorem Skipped.scanItem {item : CString} (skipped : Skipped item) (sdl : Sdl) (config : Config) :
    config.scanItem sdl item = config := by
  cases skipped with
  | bare _ none_ =>
    have whole : item.takeWhile (· ≠ '=') = item := by
      rw [takeWhile_eq_self_iff]
      exact fun char mem => by simpa using fun same : char = '=' => none_ (same ▸ mem)
    unfold Config.scanItem
    dsimp only
    rw [whole, drop_length]
  | unknown name value plain control number mouse socd pad =>
    have none_ : padSettings.find? (fun setting => setting.1.toList = name) = none := by
      simpa [List.find?_eq_none] using pad
    rw [scanItem_named sdl config value plain control]
    simp only [numbers, forall_mem_cons] at number
    unfold parseSetting
    rw [if_neg number.1.symm, if_neg number.2.1.symm, if_neg mouse, if_neg number.2.2.1.symm,
      if_neg socd, none_]
    rfl
  | number setting known value outside =>
    simp only [numbers, mem_cons, not_mem_nil, or_false] at known
    rcases known with rfl | rfl | rfl
    all_goals
      rw [scanItem_named sdl config value (by decide) (by decide)]
      simp [parseSetting, outside]
  | mouse value other =>
    rw [scanItem_named sdl config value (by decide) (by decide)]
    simp only [map_cons, mem_cons, not_or] at other
    unfold parseSetting
    rw [if_neg (by decide), if_neg (by decide), if_pos rfl, if_neg other.1, if_neg other.2.1,
      if_neg other.2.2.1]
    rfl
  | socd name known value other =>
    have four : name ∈ ["socd", "socd_dpad", "socd_left_stick", "socd_right_stick"] := by
      simpa [padSettings, eq_comm] using known
    simp only [mem_cons, not_mem_nil, or_false] at four
    rcases four with rfl | rfl | rfl | rfl
    all_goals
      rw [scanItem_named sdl config value (by decide) (by decide)]
      simp only [parseSetting, other]
      rfl

theorem ofScan_eq (sdl : Sdl) (spec : Option CString) : ofScan sdl spec = ofSpec sdl spec := by
  simp only [ofScan, scanSpec_eq]
  rfl

/-- Any spec is scanned to its end, to at most 64 distinct keys, each of the first control that
names it, and numbers within their bounds; two specs in one are scanned in turn. -/
theorem spec_scanned (sdl : Sdl) (spec : Option CString) (config : Config)
    (text first second : CString) :
    let init := ofScan sdl spec
    let scanned := config.scanSpec sdl text
    let asked := config.bindings.list ++ (text.splitOn ',').flatMap (named sdl)
    init = ofSpec sdl spec ∧
    (init.bindings.list.length ≤ 64 ∧ (init.bindings.list.map (·.source)).Nodup) ∧
    (init.rampMs.1 ≤ 5000 ∧ (1 ≤ init.walkPercent.1 ∧ init.walkPercent.1 ≤ 100) ∧
      1 ≤ init.mouseSensitivity.1 ∧ init.mouseSensitivity.1 ≤ 1000) ∧
    ((∀ binding ∈ scanned.bindings.list,
        asked.find? (·.source = binding.source) = some binding) ∧
      ∀ binding ∈ asked, binding.source ∈ scanned.bindings.list.map (·.source) ∨
        scanned.bindings.list.length = 64) ∧
    ((∀ item, Skipped item → config.scanItem sdl item = config) ∧
      (∀ control key, parseInput sdl key = none → config.addKey sdl control key = config) ∧
      ∀ item, (findControl (item.takeWhile (· ≠ '='))).isSome →
        config.scanItem sdl item = {config with
          bindings := (named sdl item).foldl Bindings.add config.bindings}) ∧
    config.scanSpec sdl (first ++ ',' :: second) =
      (config.scanSpec sdl first).scanSpec sdl second := by
  have bindings := (congrArg Config.bindings (scanSpec_eq sdl config text)).trans
    (bindings_parseSpec sdl config text)
  refine ⟨ofScan_eq sdl spec, ⟨Bindings.few _, Bindings.distinct _⟩,
    ⟨(ofScan sdl spec).rampMs.2.2, (ofScan sdl spec).walkPercent.2,
      (ofScan sdl spec).mouseSensitivity.2⟩, ?_, ?_, ?_⟩
  · rw [bindings]
    exact ⟨fun _ => Bindings.foldl_add_first _ _, fun _ => Bindings.foldl_add_all _ _⟩
  · refine ⟨fun item skipped => skipped.scanItem sdl config, fun control key unknown => ?_,
      fun item known => ?_⟩
    · rw [addKey, unknown]
    · obtain ⟨control, known⟩ := Option.isSome_iff_exists.1 known
      rw [scanItem_eq, parseItem_control sdl config known]
  · simp only [scanSpec_eq, parseSpec, splitOn_append_cons_self, foldl_append]

end Ika.Gamepad.Config
