import Ika.FlagParser.Flag
import Ika.Foundation.KeyValue

/-! When no argument can be matched by two flags, and the order of the flags does not matter. -/

set_option autoImplicit false

namespace Ika.FlagParser

open List Option

section Spellings

variable {str word : List Char}

theorem normalized_normalized : normalized (normalized str) = normalized str := by
  unfold normalized
  rw [List.map_map]
  refine map_congr_left fun char _ => ?_
  change (if (if char = '-' then '_' else char) = '-' then '_' else _) = _
  by_cases dash : char = '-'
  · rw [if_pos dash]
    rfl
  · rw [if_neg dash, if_neg dash]

theorem normalized_append {other : List Char} :
    normalized (str ++ other) = normalized str ++ normalized other := map_append

def Flag.keys {World : Type} (flag : Flag World) : List (List Char) := flag.aliases_.map normalized

def Flag.words {World : Type} (flag : Flag World) : List (List Char) :=
  match flag.style_ with
  | .String => flag.keys
  | .Bool => flag.keys ++ flag.keys.map (['n', 'o'] ++ ·)

def Flag.Spelled {World : Type} (flag : Flag World) (str : List Char) : Prop :=
  normalized str ∈ flag.words ∨ ∃ key ∈ flag.keys, key ++ ['='] <+: normalized str
  deriving Decidable

def Flag.matched {World : Type} (flag : Flag World) (arg : List Char) : Bool :=
  (ConsumeDashes arg).any fun str => flag.Spelled str

variable {World : Type} {flag : Flag World} {session : Session World} {arg alias_ value : List Char}
  {following : List (List Char)}

theorem keys_subset_words {key : List Char} (listed : key ∈ flag.keys) : key ∈ flag.words := by
  unfold Flag.words
  split
  · exact listed
  · exact mem_append_left _ listed

theorem valueOf_isSome :
    (Flag.valueOf str alias_).isSome = true ↔ normalized alias_ ++ ['='] <+: normalized str := by
  unfold Flag.valueOf MatchNormalized
  have equals : normalized (alias_ ++ ['=']) = normalized alias_ ++ ['='] := normalized_append
  have width : (normalized alias_ ++ ['=']).length = alias_.length + 1 := by
    rw [length_append, normalized, length_map]
    rfl
  have cut : normalized (str.take (alias_.length + 1)) =
      (normalized str).take (alias_.length + 1) := map_take
  rw [prefix_iff_eq_take, width, ← cut, ← equals]
  split
  · rename_i same
    exact iff_of_true rfl (of_decide_eq_true same).symm
  · rename_i differ
    exact iff_of_false nofun fun same => differ (decide_eq_true same.symm)

theorem boolValueOf_isSome :
    (Flag.boolValueOf str alias_).isSome = true ↔
      normalized alias_ ++ ['='] <+: normalized str ∨ normalized str = normalized alias_ ∨
        normalized str = ['n', 'o'] ++ normalized alias_ := by
  have negated : normalized (['n', 'o'] ++ alias_) = ['n', 'o'] ++ normalized alias_ :=
    normalized_append
  rw [← valueOf_isSome, ← negated]
  unfold Flag.boolValueOf MatchNormalized
  cases Flag.valueOf str alias_ with
  | some value => exact iff_of_true rfl (.inl rfl)
  | none =>
    dsimp only
    split
    · rename_i same
      exact iff_of_true rfl (.inr (.inl (of_decide_eq_true same)))
    · rename_i differ
      split
      · rename_i same
        exact iff_of_true rfl (.inr (.inr (of_decide_eq_true same)))
      · rename_i differ'
        refine iff_of_false nofun ?_
        rintro (absent | same | same)
        · cases absent
        · exact differ (decide_eq_true same)
        · exact differ' (decide_eq_true same)

end Spellings

section Matching

variable {World : Type} {flag : Flag World} {session : Session World} {arg str value : List Char}
  {following : List (List Char)}

theorem consume_facts {count : Nat} :
    (flag.consume (count + 1) value session).1 ≠ some 0 ∧
      (flag.consume (count + 1) value session).2.settings =
        session.settings ++ [(flag.Name, value)] := by
  have settings : (flag.SetAndValidate value session).2.settings =
      session.settings ++ [(flag.Name, value)] := by
    unfold Flag.SetAndValidate
    dsimp only
    split
    · rfl
    · rfl
  refine ⟨?_, settings⟩
  unfold Flag.consume
  dsimp only
  split
  · exact fun same => Nat.succ_ne_zero count (Option.some.inj same)
  · exact nofun

theorem exists_mem_keys {property : List Char → Prop} :
    (∃ key ∈ flag.keys, property key) ↔ ∃ alias_ ∈ flag.aliases_, property (normalized alias_) := by
  unfold Flag.keys
  simp only [List.mem_map, exists_exists_and_eq_and]

theorem findSome?_valueOf_isSome :
    (flag.aliases_.findSome? (Flag.valueOf str)).isSome = true ↔
      ∃ key ∈ flag.keys, key ++ ['='] <+: normalized str := by
  rw [findSome?_isSome_iff, exists_mem_keys]
  exact exists_congr fun alias_ => and_congr_right fun _ => valueOf_isSome

theorem any_MatchNormalized :
    flag.aliases_.any (MatchNormalized str) = true ↔ normalized str ∈ flag.keys := by
  unfold Flag.keys MatchNormalized
  rw [List.any_eq_true, List.mem_map]
  refine exists_congr fun alias_ => and_congr_right fun _ => ?_
  rw [decide_eq_true_iff, eq_comm]

theorem findSome?_boolValueOf_isSome (style : flag.style_ = .Bool) :
    (flag.aliases_.findSome? (Flag.boolValueOf str)).isSome = true ↔ flag.Spelled str := by
  have split : (∃ alias_ ∈ flag.aliases_, (Flag.boolValueOf str alias_).isSome = true) ↔
      flag.Spelled str := by
    have words : flag.words = flag.keys ++ flag.keys.map (['n', 'o'] ++ ·) := by
      unfold Flag.words
      rw [style]
    unfold Flag.Spelled
    rw [words, mem_append, List.mem_map, exists_mem_keys, exists_mem_keys]
    unfold Flag.keys
    rw [List.mem_map]
    constructor
    · rintro ⟨alias_, listed, matched⟩
      rcases boolValueOf_isSome.mp matched with valued | same | same
      · exact .inr ⟨alias_, listed, valued⟩
      · exact .inl (.inl ⟨alias_, listed, same.symm⟩)
      · exact .inl (.inr ⟨alias_, listed, same.symm⟩)
    · rintro ((⟨alias_, listed, same⟩ | ⟨alias_, listed, same⟩) | ⟨alias_, listed, valued⟩)
      · exact ⟨alias_, listed, boolValueOf_isSome.mpr (.inr (.inl same.symm))⟩
      · exact ⟨alias_, listed, boolValueOf_isSome.mpr (.inr (.inr same.symm))⟩
      · exact ⟨alias_, listed, boolValueOf_isSome.mpr (.inl valued)⟩
  rw [findSome?_isSome_iff, split]

theorem Match_unmatched (unmatched : flag.matched arg = false) :
    flag.Match arg following session = (some 0, session) := by
  unfold Flag.matched at unmatched
  unfold Flag.Match
  cases behind : ConsumeDashes arg with
  | none =>
    unfold Flag.MatchStringStyleFlag Flag.MatchBoolStyleFlag
    rw [behind]
    cases flag.style_ with
    | String => rfl
    | Bool => rfl
  | some str =>
    rw [behind, any_some, decide_eq_false_iff_not] at unmatched
    cases style : flag.style_ with
    | String =>
      have words : flag.words = flag.keys := by
        unfold Flag.words
        rw [style]
      unfold Flag.Spelled at unmatched
      rw [words, not_or, ← any_MatchNormalized, ← findSome?_valueOf_isSome] at unmatched
      obtain ⟨alone, valued⟩ := unmatched
      dsimp only
      unfold Flag.MatchStringStyleFlag
      rw [behind]
      dsimp only
      rw [not_isSome_iff_eq_none.mp valued]
      dsimp only
      rw [if_neg alone]
    | Bool =>
      rw [← findSome?_boolValueOf_isSome style] at unmatched
      dsimp only
      unfold Flag.MatchBoolStyleFlag
      rw [behind]
      dsimp only
      rw [not_isSome_iff_eq_none.mp unmatched]

theorem Match_matched (matched : flag.matched arg = true) :
    (flag.Match arg following session).1 ≠ some 0 ∧
      (following ≠ [] → ∃ value, (flag.Match arg following session).2.settings =
        session.settings ++ [(flag.Name, value)]) := by
  unfold Flag.matched at matched
  cases behind : ConsumeDashes arg with
  | none =>
    rw [behind] at matched
    cases matched
  | some str =>
    rw [behind, any_some, decide_eq_true_iff] at matched
    unfold Flag.Match
    cases style : flag.style_ with
    | String =>
      have words : flag.words = flag.keys := by
        unfold Flag.words
        rw [style]
      dsimp only
      unfold Flag.MatchStringStyleFlag
      rw [behind]
      dsimp only
      cases found : flag.aliases_.findSome? (Flag.valueOf str) with
      | some value => exact ⟨consume_facts.1, fun _ => ⟨value, consume_facts.2⟩⟩
      | none =>
        have alone : flag.aliases_.any (MatchNormalized str) = true := by
          rcases matched with word | valued
          · exact any_MatchNormalized.mpr (words ▸ word)
          · rw [← findSome?_valueOf_isSome, found] at valued
            cases valued
        dsimp only
        rw [if_pos alone]
        cases following with
        | nil => exact ⟨nofun, fun some_following => absurd rfl some_following⟩
        | cons value rest => exact ⟨consume_facts.1, fun _ => ⟨value, consume_facts.2⟩⟩
    | Bool =>
      dsimp only
      unfold Flag.MatchBoolStyleFlag
      rw [behind]
      dsimp only
      cases found : flag.aliases_.findSome? (Flag.boolValueOf str) with
      | some value => exact ⟨consume_facts.1, fun _ => ⟨value, consume_facts.2⟩⟩
      | none =>
        rw [← findSome?_boolValueOf_isSome style, found] at matched
        cases matched

theorem matchFlags_eq {flags : List (Flag World)} :
    matchFlags arg following flags session =
      match flags.find? (·.matched arg) with
      | none => (some 0, session)
      | some flag => flag.Match arg following session := by
  induction flags with
  | nil => rfl
  | cons flag rest ih =>
    unfold matchFlags
    cases matches_ : flag.matched arg with
    | false =>
      rw [Match_unmatched matches_, find?_cons_of_neg (by simp [matches_])]
      exact ih
    | true =>
      rw [find?_cons_of_pos (p := fun flag : Flag World => flag.matched arg) matches_]
      have consumed := (@Match_matched _ flag session arg following matches_).1
      dsimp only
      split
      · rename_i same
        rw [same] at consumed
        exact absurd rfl consumed
      · rfl

end Matching

structure Apart {World : Type} (one other : Flag World) : Prop where
  words : ∀ word ∈ one.words, word ∉ other.words
  left : ∀ key ∈ one.keys, ∀ word ∈ other.words, ¬key ++ ['='] <+: word
  right : ∀ key ∈ other.keys, ∀ word ∈ one.words, ¬key ++ ['='] <+: word

def Clear {World : Type} (flags : List (Flag World)) : Prop := flags.Pairwise Apart

section Apart

variable {World : Type} {one other flag : Flag World} {flags : List (Flag World)}

theorem normalized_word {word : List Char} (listed : word ∈ flag.words) : normalized word = word := by
  have key : ∀ word ∈ flag.keys, normalized word = word := by
    intro word listed
    obtain ⟨alias_, -, rfl⟩ := List.mem_map.mp listed
    exact normalized_normalized
  unfold Flag.words at listed
  split at listed
  · exact key word listed
  · rcases mem_append.mp listed with named | negated
    · exact key word named
    · obtain ⟨name, named, rfl⟩ := List.mem_map.mp negated
      rw [normalized_append, key name named]
      rfl

theorem keys_apart (apart : Apart one other) {key key' str : List Char} (listed : key ∈ one.keys)
    (listed' : key' ∈ other.keys) (valued : key ++ ['='] <+: str) (valued' : key' ++ ['='] <+: str) :
    False := by
  rcases prefix_or_prefix_of_prefix valued valued' with shorter | longer
  · rcases prefix_concat_iff.mp shorter with same | inside
    · have equal := (append_left_inj _).mp same
      exact apart.words key (keys_subset_words listed) (equal ▸ keys_subset_words listed')
    · exact apart.left key listed key' (keys_subset_words listed') inside
  · rcases prefix_concat_iff.mp longer with same | inside
    · have equal := (append_left_inj _).mp same
      exact apart.words key (keys_subset_words listed) (equal ▸ keys_subset_words listed')
    · exact apart.right key' listed' key (keys_subset_words listed) inside

theorem not_spelled_both (apart : Apart one other) {str : List Char} (spelled : one.Spelled str)
    (spelled' : other.Spelled str) : False := by
  rcases spelled with word | ⟨key, listed, valued⟩
  · rcases spelled' with word' | ⟨key', listed', valued'⟩
    · exact apart.words _ word word'
    · exact apart.right key' listed' _ word valued'
  · rcases spelled' with word' | ⟨key', listed', valued'⟩
    · exact apart.left key listed _ word' valued
    · exact keys_apart apart listed listed' valued valued'

theorem spelled_of_word {word : List Char} (listed : word ∈ flag.words) : flag.Spelled word :=
  .inl ((normalized_word listed).symm ▸ listed)

theorem apart_iff : Apart one other ↔ ∀ str, ¬(one.Spelled str ∧ other.Spelled str) := by
  constructor
  · exact fun apart str both => not_spelled_both apart both.1 both.2
  · intro alone
    constructor
    · intro word listed listed'
      exact alone word ⟨spelled_of_word listed, spelled_of_word listed'⟩
    · intro key listed word listed' valued
      refine alone word ⟨.inr ⟨key, listed, ?_⟩, spelled_of_word listed'⟩
      exact (normalized_word listed').symm ▸ valued
    · intro key listed word listed' valued
      refine alone word ⟨spelled_of_word listed', .inr ⟨key, listed, ?_⟩⟩
      exact (normalized_word listed').symm ▸ valued

theorem matched_dashes {str : List Char} :
    flag.matched ('-' :: '-' :: str) = true ↔ flag.Spelled str := decide_eq_true_iff

theorem apart_iff_matched :
    Apart one other ↔ ∀ arg, ¬(one.matched arg = true ∧ other.matched arg = true) := by
  rw [apart_iff]
  constructor
  · rintro alone arg ⟨matched, matched'⟩
    unfold Flag.matched at matched matched'
    cases behind : ConsumeDashes arg with
    | none =>
      rw [behind] at matched
      cases matched
    | some str =>
      rw [behind, any_some, decide_eq_true_iff] at matched matched'
      exact alone str ⟨matched, matched'⟩
  · rintro alone str ⟨spelled, spelled'⟩
    exact alone ('-' :: '-' :: str) ⟨matched_dashes.mpr spelled, matched_dashes.mpr spelled'⟩

theorem clear_iff_single :
    Clear flags ↔ ∀ arg, UniqueMatch.Single (fun flag => flag.matched arg) flags := by
  unfold Clear UniqueMatch.Single
  simp only [pairwise_iff_getElem, apart_iff_matched]
  constructor
  · exact fun apart arg low high first second less => apart low high first second less arg
  · exact fun single low high first second less arg => single arg low high first second less

end Apart

/-- Neither the order of the flags matters, nor is an argument matched by two of them. -/
structure Unambiguous {World : Type} (flags : List (Flag World)) (world : World) : Prop where
  stable : ∀ (others : List (Flag World)) (args : List (List Char)) (opts : ConsumeFlagsOpts),
    others.Perm flags → ConsumeFlags others args opts world = ConsumeFlags flags args opts world
  single : ∀ arg, flags.Pairwise fun one other =>
    ¬(one.matched arg = true ∧ other.matched arg = true)

section Order

variable {World : Type} {flags others : List (Flag World)} {world : World}

theorem accepted_of_perm (perm : others.Perm flags) : Accepted others ↔ Accepted flags :=
  (perm.flatMap_right _).nodup_iff

variable {opts : ConsumeFlagsOpts} {skipped : Nat} {args kept : List (List Char)}

theorem consumeLoop_congr
    (same : ∀ arg following, matchFlags arg following others = matchFlags arg following flags)
    {session : Session World} :
    consumeLoop others opts skipped args kept session =
      consumeLoop flags opts skipped args kept session := by
  induction args generalizing skipped kept session with
  | nil => cases skipped <;> rfl
  | cons arg rest ih =>
    cases skipped with
    | succ skipped => exact ih
    | zero =>
      unfold consumeLoop
      rw [same]
      simp only [ih]

theorem stable_of_clear (clear : Clear flags) (perm : others.Perm flags) :
    ConsumeFlags others args opts world = ConsumeFlags flags args opts world := by
  have same : ∀ arg following, matchFlags arg following others = matchFlags arg following flags := by
    intro arg following
    funext session
    rw [matchFlags_eq, matchFlags_eq, UniqueMatch.find?_of_perm (clear_iff_single.mp clear arg) perm]
  unfold ConsumeFlags
  simp only [accepted_of_perm perm, consumeLoop_congr same]

theorem consumeLoop_empty {session : Session World} :
    (consumeLoop flags opts skipped [[]] kept session).session = session := by
  cases skipped with
  | succ skipped => rfl
  | zero =>
    have absent : flags.find? (·.matched []) = none := List.find?_eq_none.mpr fun _ _ => nofun
    unfold consumeLoop
    rw [matchFlags_eq, absent]
    dsimp only
    split
    · rfl
    · rfl

theorem first_setting {flag : Flag World} {str : List Char} (accepted : Accepted (flag :: flags))
    (spelled : flag.Spelled str) :
    ∃ value, (ConsumeFlags (flag :: flags) ['-' :: '-' :: str, []] {} world).session.settings =
      [(flag.Name, value)] := by
  have matches_ := matched_dashes.mpr spelled
  obtain ⟨consumed, sets⟩ := @Match_matched _ flag ⟨world, []⟩ _ [[]] matches_
  obtain ⟨value, settings⟩ := sets (cons_ne_nil _ _)
  have found : (flag :: flags).find? (·.matched ('-' :: '-' :: str)) = some flag :=
    find?_cons_of_pos (p := fun flag : Flag World => flag.matched ('-' :: '-' :: str)) matches_
  refine ⟨value, ?_⟩
  unfold ConsumeFlags
  rw [if_pos accepted]
  change (consumeLoop _ _ 0 [_, []] [] _).session.settings = _
  unfold consumeLoop
  rw [matchFlags_eq, found]
  dsimp only
  split
  · rename_i after same
    rw [same] at settings
    exact settings
  · rename_i after same
    rw [same] at consumed
    exact absurd rfl consumed
  · rename_i count after same
    rw [same] at settings
    rw [consumeLoop_empty]
    exact settings

theorem names_ne {one other : Flag World} (accepted : Accepted (one :: other :: flags)) :
    one.Name ≠ other.Name := by
  unfold Accepted at accepted
  rw [flatMap_cons, flatMap_cons] at accepted
  have apart := (nodup_append.mp accepted).2.2
  exact apart _ (head_mem _) _ (mem_append_left _ (head_mem _))

theorem clear_of_stable (accepted : Accepted flags)
    (stable : ∀ (others : List (Flag World)) (args : List (List Char)) (opts : ConsumeFlagsOpts),
      others.Perm flags → ConsumeFlags others args opts world = ConsumeFlags flags args opts world) :
    Clear flags := by
  unfold Clear
  rw [pairwise_iff_forall_sublist]
  intro one other both
  rw [apart_iff]
  rintro str ⟨spelled, spelled'⟩
  obtain ⟨rest, perm⟩ := both.exists_perm_append
  have first : (one :: other :: rest).Perm flags := perm.symm
  have second : (other :: one :: rest).Perm flags := (List.Perm.swap one other rest).trans first
  have accepted' := (accepted_of_perm first).mpr accepted
  obtain ⟨value, set⟩ := @first_setting _ _ world _ _ accepted' spelled
  obtain ⟨value', set'⟩ :=
    @first_setting _ _ world _ _ ((accepted_of_perm second).mpr accepted) spelled'
  have same := (stable _ ['-' :: '-' :: str, []] {} first).trans
    (stable _ ['-' :: '-' :: str, []] {} second).symm
  rw [same, set'] at set
  exact names_ne accepted' (congrArg Prod.fst (List.cons.inj set).1).symm

/-- Flags that are accepted are matched without ambiguity, if and only if they stay apart. -/
theorem unambiguous_iff (accepted : Accepted flags) : Unambiguous flags world ↔ Clear flags := by
  constructor
  · exact fun unambiguous => clear_of_stable accepted unambiguous.stable
  · intro clear
    refine ⟨fun others args opts perm => stable_of_clear clear perm, fun arg => ?_⟩
    exact clear_iff_single.mp clear arg

end Order

/-- A flag of one name, whose setter does nothing. -/
def flagOf (style : Style) (name : List Char) (plain : name.head? ≠ some '-') : Flag Unit where
  aliases_ := [name]
  style_ := style
  setter_ _ _ := (true, ())
  named := cons_ne_nil _ _
  plain _ listed := mem_singleton.mp listed ▸ plain
  distinct := nodup_cons.mpr ⟨not_mem_nil, nodup_nil⟩

def plainFlags : List (Flag Unit) :=
  [flagOf .Bool ['d', 'a', 'e', 'm', 'o', 'n'] (by decide),
    flagOf .String ['c', 'p', 'u', 's'] (by decide)]

theorem plainFlags_unambiguous : Unambiguous plainFlags () := by
  refine (unambiguous_iff (by decide)).mpr (List.pairwise_pair.mpr ?_)
  exact ⟨by decide, by decide, by decide⟩

def dashFlags : List (Flag Unit) :=
  [flagOf .String ['a', '-', 'b'] (by decide), flagOf .String ['a', '_', 'b'] (by decide)]

def deniedFlags : List (Flag Unit) :=
  [flagOf .Bool ['d', 'e'] (by decide), flagOf .String ['n', 'o', 'd', 'e'] (by decide)]

/-- Flags that are accepted are set in each other's place when their order changes. -/
theorem accepted_flags_ambiguous :
    (Accepted dashFlags ∧ ¬Unambiguous dashFlags () ∧
      (ConsumeFlags dashFlags [['-', 'a', '-', 'b', '=', '1']] {} ()).session.settings =
        [(['a', '-', 'b'], ['1'])] ∧
      (ConsumeFlags dashFlags.reverse [['-', 'a', '-', 'b', '=', '1']] {} ()).session.settings =
        [(['a', '_', 'b'], ['1'])]) ∧
    Accepted deniedFlags ∧ ¬Unambiguous deniedFlags () ∧
      (ConsumeFlags deniedFlags [['-', 'n', 'o', 'd', 'e'], ['1']] {} ()).session.settings =
        [(['d', 'e'], ['n', 'o'])] ∧
      (ConsumeFlags deniedFlags.reverse [['-', 'n', 'o', 'd', 'e'], ['1']] {} ()).session.settings =
        [(['n', 'o', 'd', 'e'], ['1'])] := by
  have dash : (ConsumeFlags dashFlags [['-', 'a', '-', 'b', '=', '1']] {} ()).session.settings ≠
      (ConsumeFlags dashFlags.reverse [['-', 'a', '-', 'b', '=', '1']] {} ()).session.settings := by
    decide
  have denied : (ConsumeFlags deniedFlags [['-', 'n', 'o', 'd', 'e'], ['1']] {} ()).session.settings ≠
      (ConsumeFlags deniedFlags.reverse [['-', 'n', 'o', 'd', 'e'], ['1']] {} ()).session.settings := by
    decide
  refine ⟨⟨by decide, fun unambiguous => ?_, by decide, by decide⟩, by decide,
    fun unambiguous => ?_, by decide, by decide⟩
  · exact dash (congrArg (·.session.settings)
      (unambiguous.stable _ _ _ (reverse_perm _))).symm
  · exact denied (congrArg (·.session.settings)
      (unambiguous.stable _ _ _ (reverse_perm _))).symm

end Ika.FlagParser
