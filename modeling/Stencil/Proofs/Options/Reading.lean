import Mathlib
import Stencil.Options.Read
import Stencil.Regex.SyntaxFault
/-!
# Configured options

Options can be given by name, by place, or set one after another. A name or a place gives an
option a value that it accepts, of several values the last one counts, and options that are not
given are off. So the three ways agree, and nothing else is read as options.
-/
namespace Stencil

/-! ## What a configuration gives -/

/-- The size limit takes null or an unsigned word, and the other options take truth values. -/
def OptionKey.Accepts : OptionKey → Config → Prop
  | .sizeLimit, given => given = .null ∨ ∃ size : Nat, size < 2 ^ 64 ∧ given = .integer size
  | _, given => ∃ flag, given = .boolean flag

/-- An entry names an option and has a value that the option accepts. -/
def OptionKey.Permits (entry : String × Config) : Prop :=
  ∃ key : OptionKey, key.name = entry.1 ∧ key.Accepts entry.2

namespace Config

/-- A configuration is a map that gives options by name, or a sequence that gives at most all of
them by place. -/
def GivesOptions : Config → Prop
  | map entries => ∀ entry ∈ entries, OptionKey.Permits entry
  | sequence items =>
    items.length ≤ 4 ∧ ∀ place ∈ OptionKey.all.zip items, place.1.Accepts place.2
  | _ => False

/-- The value of the last entry with a name. -/
def lastValue? (entries : List (String × Config)) (name : String) : Option Config :=
  (entries.filter fun entry => entry.1 = name).getLast?.map Prod.snd

/-- The value that is given to an option, if one is. -/
def given? : Config → OptionKey → Option Config
  | map entries, key => lastValue? entries key.name
  | sequence items, key => items[OptionKey.all.idxOf key]?
  | _, _ => none

end Config

/-- The entries that give by name what a sequence gives by place. -/
def OptionKey.placed (items : List Config) : List (String × Config) :=
  (all.zip items).map fun place => (place.1.name, place.2)

namespace Setting

def key : Setting → OptionKey
  | anchored _ => .anchored
  | caseInsensitive _ => .caseInsensitive
  | escapeLiterals _ => .escapeLiterals
  | sizeLimit _ => .sizeLimit

def value : Setting → Config
  | anchored flag | caseInsensitive flag | escapeLiterals flag => .boolean flag
  | sizeLimit bytes => .integer bytes

def entry (setting : Setting) : String × Config :=
  (setting.key.name, setting.value)

/-- Each option that is set, with the last value that it is set to. -/
def lastEntries (settings : List Setting) : List (String × Config) :=
  OptionKey.all.filterMap fun key =>
    (Config.lastValue? (settings.map entry) key.name).map fun last => (key.name, last)

/-- The size of an expression is an unsigned word of 64 bits. -/
def Fits : Setting → Prop
  | sizeLimit bytes => bytes < 2 ^ 64
  | _ => True

end Setting

namespace OptionKey

theorem name_injective : Function.Injective name := by
  intro first second same
  have named := congrArg named? same
  rw [named?_name, named?_name] at named
  exact Option.some.inj named

theorem permits_name_iff {key : OptionKey} {given : Config} :
    Permits (key.name, given) ↔ key.Accepts given := by
  constructor
  · intro permitted
    obtain ⟨other, named, accepted⟩ := permitted
    rwa [name_injective named] at accepted
  · exact fun accepted => ⟨key, rfl, accepted⟩

theorem permits_placed_iff {items : List Config} :
    (∀ entry ∈ placed items, Permits entry) ↔
      ∀ place ∈ all.zip items, place.1.Accepts place.2 := by
  simp only [placed, List.forall_mem_map, permits_name_iff]

end OptionKey

/-! ## The last of several values -/

namespace Config

/-- A value with the same name further behind counts instead. -/
theorem lastValue?_cons (name other : String) (given : Config)
    (entries : List (String × Config)) :
    lastValue? ((name, given) :: entries) other =
      (lastValue? entries other).or (if name = other then some given else none) := by
  by_cases same : name = other
  · rw [lastValue?, lastValue?, List.filter_cons_of_pos (by simpa using same), List.getLast?_cons,
      if_pos same]
    cases (entries.filter fun entry => entry.1 = other).getLast? <;> rfl
  · rw [lastValue?, lastValue?, List.filter_cons_of_neg (by simpa using same), if_neg same,
      Option.or_none]

theorem mem_of_lastValue? {entries : List (String × Config)} {name : String}
    {last : Config} (h : lastValue? entries name = some last) : (name, last) ∈ entries := by
  obtain ⟨⟨other, given⟩, final, rfl⟩ := Option.map_eq_some_iff.mp h
  obtain ⟨member, named⟩ := List.mem_filter.mp (List.mem_of_getLast? final)
  obtain rfl : other = name := of_decide_eq_true named
  exact member

theorem lastValue?_placed (items : List Config) (key : OptionKey) :
    lastValue? (OptionKey.placed items) key.name = items[OptionKey.all.idxOf key]? := by
  rcases items with _ | ⟨first, _ | ⟨second, _ | ⟨third, _ | ⟨fourth, more⟩⟩⟩⟩ <;>
    cases key <;> rfl

theorem lastValue?_filterMap (last : OptionKey → Option Config) (keys : List OptionKey)
    (key : OptionKey) :
    lastValue? (keys.filterMap fun key => (last key).map fun value => (key.name, value)) key.name =
      if key ∈ keys then last key else none := by
  induction keys with
  | nil => rfl
  | cons first keys ih =>
    have named : first.name = key.name ↔ key = first :=
      OptionKey.name_injective.eq_iff.trans eq_comm
    cases given : last first with
    | none =>
      rw [List.filterMap_cons_none (by rw [given]; rfl), ih]
      by_cases same : key = first <;> simp [same, given]
    | some value =>
      rw [List.filterMap_cons_some (by rw [given]; rfl), lastValue?_cons, ih]
      by_cases same : key = first <;> by_cases later : key ∈ keys <;> simp_all

end Config

namespace Options

/-- The value of an option, as a configuration gives it. -/
def value (options : Options) : OptionKey → Config
  | .anchored => .boolean options.anchored
  | .caseInsensitive => .boolean options.caseInsensitive
  | .escapeLiterals => .boolean options.escapeLiterals
  | .sizeLimit => options.sizeLimit.elim .null fun bytes => .integer bytes

variable {options options' : Options} {key : OptionKey} {given : Config}
  {entry : String × Config} {entries : List (String × Config)}

theorem eq_of_value (same : ∀ key, options.value key = options'.value key) :
    options = options' := by
  obtain ⟨anchored, caseInsensitive, escapeLiterals, sizeLimit⟩ := options
  obtain ⟨anchored', caseInsensitive', escapeLiterals', sizeLimit'⟩ := options'
  obtain rfl : anchored = anchored' := Config.boolean.inj (same .anchored)
  obtain rfl : caseInsensitive = caseInsensitive' := Config.boolean.inj (same .caseInsensitive)
  obtain rfl : escapeLiterals = escapeLiterals' := Config.boolean.inj (same .escapeLiterals)
  have limit := same .sizeLimit
  cases sizeLimit <;> cases sizeLimit' <;> simp_all [value]

/-! ## One value -/

theorem readTruth_eq_ok_iff {flag : Bool} : readTruth given = .ok flag ↔ given = .boolean flag := by
  cases given <;> simp [readTruth]

theorem readSize_eq_ok_iff {limit : Option Nat} : readSize given = .ok limit ↔
    given = .null ∧ limit = none ∨
      ∃ size : Nat, size < 2 ^ 64 ∧ given = .integer size ∧ limit = some size := by
  constructor
  · intro read
    cases given with
    | null => exact .inl ⟨rfl, (Except.ok.inj read).symm⟩
    | integer number =>
      rw [readSize] at read
      split at read
      · rename_i fits
        have below : number < 2 ^ 64 := fits.2
        have whole : (number.toNat : Int) = number := Int.toNat_of_nonneg fits.1
        refine .inr ⟨number.toNat, by omega, by rw [whole], (Except.ok.inj read).symm⟩
      · split at read <;> cases read
    | boolean | floating | text | sequence | map => cases read
  · intro given
    rcases given with ⟨rfl, rfl⟩ | ⟨size, fits, rfl, rfl⟩
    · rfl
    · have word : 0 ≤ (size : Int) ∧ (size : Int) < Config.wordLimit := by
        rw [Config.wordLimit]
        omega
      rw [readSize, if_pos word, Int.toNat_natCast]

/-- Giving an option a value that it accepts sets that option and no other. -/
theorem values_of_assign (h : options.assign key given = .ok options') : key.Accepts given ∧
    ∀ other, options'.value other = if other = key then given else options.value other := by
  cases key with
  | sizeLimit =>
    obtain ⟨limit, read, rfl⟩ := Regex.map_eq_ok h
    rcases readSize_eq_ok_iff.mp read with ⟨rfl, rfl⟩ | ⟨size, fits, rfl, rfl⟩
    · exact ⟨.inl rfl, fun other => by cases other <;> rfl⟩
    · exact ⟨.inr ⟨size, fits, rfl⟩, fun other => by cases other <;> rfl⟩
  | anchored | caseInsensitive | escapeLiterals =>
    obtain ⟨flag, read, rfl⟩ := Regex.map_eq_ok h
    obtain rfl := readTruth_eq_ok_iff.mp read
    exact ⟨⟨flag, rfl⟩, fun other => by cases other <;> rfl⟩

theorem exists_assign (accepted : key.Accepts given) (options : Options) :
    ∃ options', options.assign key given = .ok options' := by
  cases key with
  | sizeLimit =>
    have read : ∃ limit, readSize given = .ok limit := by
      rcases accepted with rfl | ⟨size, fits, rfl⟩
      · exact ⟨none, rfl⟩
      · exact ⟨some size, readSize_eq_ok_iff.mpr (.inr ⟨size, fits, rfl, rfl⟩)⟩
    obtain ⟨limit, read⟩ := read
    exact ⟨_, congrArg (Except.map _) read⟩
  | anchored | caseInsensitive | escapeLiterals =>
    obtain ⟨flag, rfl⟩ := accepted
    exact ⟨_, rfl⟩

/-! ## Values one after another -/

theorem assignEntry_name (options : Options) (key : OptionKey) (given : Config) :
    options.assignEntry (key.name, given) = options.assign key given := by
  rw [assignEntry, OptionKey.named?_name]

theorem assign_of_assignEntry (h : options.assignEntry entry = .ok options') :
    ∃ key : OptionKey, key.name = entry.1 ∧ options.assign key entry.2 = .ok options' := by
  rw [assignEntry] at h
  split at h
  · rename_i key named
    exact ⟨key, OptionKey.name_of_named? named, h⟩
  · cases h

/-- Entries are read if each of them may be read, and of those for one option the last one counts. -/
theorem values_of_assignEntries (h : entries.foldlM assignEntry options = .ok options') :
    (∀ entry ∈ entries, OptionKey.Permits entry) ∧
      ∀ key : OptionKey, options'.value key =
        (Config.lastValue? entries key.name).getD (options.value key) := by
  induction entries generalizing options with
  | nil =>
    cases h
    exact ⟨List.forall_mem_nil _, fun _ => rfl⟩
  | cons entry entries ih =>
    obtain ⟨name, given⟩ := entry
    rw [List.foldlM_cons] at h
    obtain ⟨middle, first, rest⟩ := Regex.bind_eq_ok h
    obtain ⟨key, rfl, first⟩ := assign_of_assignEntry first
    obtain ⟨accepted, value⟩ := values_of_assign first
    obtain ⟨permitted, values⟩ := ih rest
    refine ⟨List.forall_mem_cons.mpr ⟨⟨key, rfl, accepted⟩, permitted⟩, ?_⟩
    intro other
    have named : key.name = other.name ↔ other = key :=
      OptionKey.name_injective.eq_iff.trans eq_comm
    rw [values, Config.lastValue?_cons, value]
    simp only [named]
    -- an entry behind that has the same name counts instead of the first
    cases Config.lastValue? entries other.name with
    | some last => rfl
    | none => by_cases same : other = key <;> simp [same]

theorem exists_assignEntries (permitted : ∀ entry ∈ entries, OptionKey.Permits entry)
    (options : Options) : ∃ options', entries.foldlM assignEntry options = .ok options' := by
  induction entries generalizing options with
  | nil => exact ⟨options, rfl⟩
  | cons entry entries ih =>
    obtain ⟨⟨key, named, accepted⟩, others⟩ := List.forall_mem_cons.mp permitted
    obtain ⟨middle, first⟩ := exists_assign accepted options
    obtain ⟨options', rest⟩ := ih others middle
    refine ⟨options', ?_⟩
    rw [← assignEntry_name, named] at first
    rw [List.foldlM_cons, first]
    exact rest

theorem assignEntries_eq_ok_iff : entries.foldlM assignEntry options = .ok options' ↔
    (∀ entry ∈ entries, OptionKey.Permits entry) ∧
      ∀ key : OptionKey, options'.value key =
        (Config.lastValue? entries key.name).getD (options.value key) := by
  constructor
  · exact values_of_assignEntries
  · intro holds
    obtain ⟨permitted, values⟩ := holds
    obtain ⟨found, read⟩ := exists_assignEntries permitted options
    have same : found = options' := by
      apply eq_of_value
      intro key
      rw [(values_of_assignEntries read).2, values]
    rwa [same] at read

/-! ## Maps -/

private theorem inOrder_trans (first second third : String × Config)
    (before : decide (first.1 ≤ second.1) = true) (behind : decide (second.1 ≤ third.1) = true) :
    decide (first.1 ≤ third.1) = true :=
  decide_eq_true (String.le_trans (of_decide_eq_true before) (of_decide_eq_true behind))

private theorem inOrder_total (first second : String × Config) :
    (decide (first.1 ≤ second.1) || decide (second.1 ≤ first.1)) = true := by
  simpa using String.le_total first.1 second.1

/-- Entries with one name stay in their order when all are sorted. -/
theorem lastValue?_sortEntries (entries : List (String × Config)) (name : String) :
    Config.lastValue? (sortEntries entries) name = Config.lastValue? entries name := by
  let own (entry : String × Config) : Bool := entry.1 = name
  -- sorting keeps entries as they are that are in order, as those with one name are
  have alike : (entries.filter own).Pairwise
      fun first second => decide (first.1 ≤ second.1) = true := by
    apply List.pairwise_of_forall_mem_list
    intro first member second member'
    have named : first.1 = name := of_decide_eq_true (List.mem_filter.mp member).2
    have named' : second.1 = name := of_decide_eq_true (List.mem_filter.mp member').2
    rw [named, named']
    exact decide_eq_true (String.le_refl name)
  have within : (entries.filter own).Sublist ((sortEntries entries).filter own) := by
    have kept := (List.sublist_mergeSort inOrder_trans inOrder_total alike
      List.filter_sublist).filter own
    simpa only [List.filter_filter, Bool.and_self, sortEntries] using kept
  have length := ((List.mergeSort_perm entries
    fun first second => decide (first.1 ≤ second.1)).filter own).length_eq
  have same : (sortEntries entries).filter own = entries.filter own :=
    (within.eq_of_length length.symm).symm
  exact congrArg (fun chosen => chosen.getLast?.map Prod.snd) same

theorem readEntries_eq_ok_iff : readEntries entries = .ok options ↔
    (∀ entry ∈ entries, OptionKey.Permits entry) ∧
      ∀ key : OptionKey, options.value key =
        (Config.lastValue? entries key.name).getD (value {} key) := by
  simp only [readEntries, assignEntries_eq_ok_iff, lastValue?_sortEntries]
  simp only [sortEntries, List.mem_mergeSort]

/-- Entries with different names may come in any order. -/
theorem readEntries_of_perm {entries' : List (String × Config)} (perm : entries.Perm entries')
    (distinct : (entries.map Prod.fst).Nodup) : readEntries entries = readEntries entries' := by
  have same : sortEntries entries = sortEntries entries' := by
    apply List.Perm.eq_of_pairwise _ (List.pairwise_mergeSort inOrder_trans inOrder_total _)
      (List.pairwise_mergeSort inOrder_trans inOrder_total _)
    · exact ((List.mergeSort_perm _ _).trans perm).trans (List.mergeSort_perm _ _).symm
    · intro first second member member' before behind
      have named := String.le_antisymm (of_decide_eq_true before) (of_decide_eq_true behind)
      apply List.inj_on_of_nodup_map distinct (List.mem_mergeSort.mp member) _ named
      exact perm.mem_iff.mpr (List.mem_mergeSort.mp member')
  rw [readEntries, readEntries, same]

/-! ## Sequences -/

/-- Options are given by place in the order of their names. -/
theorem sortEntries_placed (items : List Config) :
    sortEntries (OptionKey.placed items) = OptionKey.placed items := by
  apply List.mergeSort_of_pairwise
  have names : OptionKey.all.Pairwise fun first second => first.name ≤ second.name := by decide
  have keys : (OptionKey.all.zip items).map Prod.fst =
      OptionKey.all.take (min OptionKey.all.length items.length) := by
    rw [List.zip_eq_zip_take_min, List.map_fst_zip (by simp)]
  have sorted := names.sublist (List.take_sublist (min OptionKey.all.length items.length) _)
  rw [← keys, List.pairwise_map] at sorted
  simpa only [OptionKey.placed, List.pairwise_map, decide_eq_true_eq] using sorted

theorem readItems_eq (items : List Config) (few : items.length ≤ 4) :
    readItems items = readEntries (OptionKey.placed items) := by
  have assign (options : Options) (place : OptionKey × Config) :
      options.assignEntry (place.1.name, place.2) = options.assign place.1 place.2 :=
    assignEntry_name options place.1 place.2
  have fits : ¬OptionKey.all.length < items.length := Nat.not_lt.mpr few
  rw [readEntries, sortEntries_placed, OptionKey.placed, List.foldlM_map, readItems]
  simp only [assign, if_neg fits]
  exact bind_pure _

theorem few_of_readItems {items : List Config}
    (h : readItems items = .ok options) : items.length ≤ 4 := by
  rw [readItems] at h
  obtain ⟨found, _, read⟩ := Regex.bind_eq_ok h
  by_contra many
  have excess : OptionKey.all.length < items.length := Nat.lt_of_not_le many
  rw [if_pos excess] at read
  cases read

/-! ## Settings -/

/-- Setting an option is reading its entry. -/
theorem assignEntry_setting {setting : Setting} (fits : setting.Fits) (options : Options) :
    options.assignEntry setting.entry = .ok (options.set setting) := by
  rw [Setting.entry, assignEntry_name]
  cases setting with
  | sizeLimit bytes =>
    have read : readSize (.integer bytes) = .ok (some bytes) :=
      readSize_eq_ok_iff.mpr (.inr ⟨bytes, fits, rfl, rfl⟩)
    rw [Setting.key, Setting.value, assign, read]
    rfl
  | anchored | caseInsensitive | escapeLiterals => rfl

theorem assignEntries_settings {settings : List Setting}
    (fits : ∀ setting ∈ settings, setting.Fits) (options : Options) :
    (settings.map Setting.entry).foldlM assignEntry options = .ok (settings.foldl set options) := by
  induction settings generalizing options with
  | nil => rfl
  | cons setting settings ih =>
    obtain ⟨own, others⟩ := List.forall_mem_cons.mp fits
    rw [List.map_cons, List.foldlM_cons, assignEntry_setting own]
    exact ih others (options.set setting)

variable {settings : List Setting}

/-- The last entries give what all the settings give. -/
theorem readEntries_lastEntries (fits : ∀ setting ∈ settings, setting.Fits) :
    readEntries (Setting.lastEntries settings) = .ok (ofSettings settings) := by
  obtain ⟨permitted, values⟩ := values_of_assignEntries (assignEntries_settings fits {})
  apply readEntries_eq_ok_iff.mpr
  constructor
  · intro entry member
    obtain ⟨key, _, given⟩ := List.mem_filterMap.mp member
    obtain ⟨last, found, rfl⟩ := Option.map_eq_some_iff.mp given
    exact permitted _ (Config.mem_of_lastValue? found)
  · intro key
    have listed : key ∈ OptionKey.all := by cases key <;> decide
    rw [Setting.lastEntries, Config.lastValue?_filterMap, if_pos listed]
    exact values key

theorem nodup_lastEntries (settings : List Setting) :
    ((Setting.lastEntries settings).map Prod.fst).Nodup := by
  rw [Setting.lastEntries, List.map_filterMap]
  apply List.Nodup.filterMap _ (by decide)
  intro first second name found found'
  simp only [Option.map_map, Option.mem_def, Option.map_eq_some_iff] at found found'
  obtain ⟨_, _, rfl⟩ := found
  obtain ⟨_, _, same⟩ := found'
  exact (OptionKey.name_injective same).symm

/-- An option that is never set is off. -/
theorem value_of_unset (fits : ∀ setting ∈ settings, setting.Fits) {key : OptionKey}
    (unset : ∀ setting ∈ settings, setting.key ≠ key) :
    (ofSettings settings).value key = value {} key := by
  have values := (values_of_assignEntries (assignEntries_settings fits {})).2 key
  cases found : Config.lastValue? (settings.map Setting.entry) key.name with
  | none => rwa [found] at values
  | some last =>
    obtain ⟨setting, member, same⟩ := List.mem_map.mp (Config.mem_of_lastValue? found)
    have named : setting.key.name = key.name := congrArg Prod.fst same
    exact absurd (OptionKey.name_injective named) (unset setting member)

/-! ## Every configuration -/

theorem exists_read {config : Config} (gives : config.GivesOptions) :
    ∃ options, read config = .ok options := by
  cases config with
  | map entries =>
    apply exists_assignEntries
    intro entry member
    exact gives entry (List.mem_mergeSort.mp member)
  | sequence items =>
    obtain ⟨few, accepted⟩ := gives
    rw [read, readItems_eq items few, readEntries, sortEntries_placed]
    exact exists_assignEntries (OptionKey.permits_placed_iff.mpr accepted) {}
  | null | boolean | integer | floating | text => exact gives.elim

theorem read_iff_gives {config : Config} {options : Options} : read config = .ok options ↔
    config.GivesOptions ∧
      ∀ key, options.value key = (config.given? key).getD (value {} key) := by
  cases config with
  | map entries => exact readEntries_eq_ok_iff
  | sequence items =>
    by_cases few : items.length ≤ 4
    · rw [read, readItems_eq items few, readEntries_eq_ok_iff,
        OptionKey.permits_placed_iff]
      simp only [Config.lastValue?_placed, Config.GivesOptions, Config.given?, few, true_and]
    · constructor
      · intro found
        exact absurd (few_of_readItems found) few
      · intro holds
        exact absurd holds.1.1 few
  | null | boolean | integer | floating | text =>
    constructor
    · intro found
      cases found
    · intro holds
      exact holds.1.elim

/-- Options are read exactly from maps of their names and from sequences of at most four of them,
with values that they accept. What is given is taken and the rest is off. The order of a map does
not matter, a sequence stands for the map of the same options, and options that are set one after
another are those of the map that holds the last value of each. -/
theorem configured_as_set :
    (∀ config,
      ((∃ options, read config = .ok options) ↔ config.GivesOptions) ∧
      ∀ options, read config = .ok options ↔ config.GivesOptions ∧
        ∀ key, options.value key = (config.given? key).getD (value {} key)) ∧
    (∀ entries entries' : List (String × Config), entries.Perm entries' →
      (entries.map Prod.fst).Nodup → read (.map entries) = read (.map entries')) ∧
    (∀ items : List Config, items.length ≤ 4 →
      read (.sequence items) = read (.map (OptionKey.placed items))) ∧
    ∀ settings : List Setting, (∀ setting ∈ settings, setting.Fits) →
      (∀ entries, entries.Perm (Setting.lastEntries settings) →
        read (.map entries) = .ok (ofSettings settings)) ∧
      ∀ key, (∀ setting ∈ settings, setting.key ≠ key) →
        (ofSettings settings).value key = value {} key := by
  refine ⟨?_, fun _ _ perm distinct => readEntries_of_perm perm distinct, readItems_eq, ?_⟩
  · intro config
    refine ⟨⟨?_, exists_read⟩, fun _ => read_iff_gives⟩
    intro found
    obtain ⟨options, found⟩ := found
    exact (read_iff_gives.mp found).1
  · intro settings fits
    refine ⟨?_, fun key unset => value_of_unset fits unset⟩
    intro entries perm
    have same := readEntries_of_perm perm.symm (nodup_lastEntries settings)
    rw [read, ← same, readEntries_lastEntries fits]

/-- Names come in any order, the last size that is set is the one that is configured, and a fifth
item, a size written as a floating point number and an unknown name are refused. -/
theorem configured_out_of_order :
    let entries : List (String × Config) :=
      [("size_limit", .integer 10), ("anchored", .boolean true)]
    let settings : List Setting := [.sizeLimit 5, .anchored true, .sizeLimit 10]
    read (.map entries) = .ok (ofSettings settings) ∧
      read (.map entries) = read (.map entries.reverse) ∧
      (ofSettings settings).value .escapeLiterals = .boolean false ∧
      read (.sequence [.boolean true, .boolean false]) =
        read (.map [("anchored", .boolean true), ("case_insensitive", .boolean false)]) ∧
      (¬∃ options, read (.sequence
        [.boolean true, .boolean true, .boolean true, .null, .null]) = .ok options) ∧
      (¬∃ options, read (.map [("size_limit", .floating ⟨false, 20, 1⟩)]) = .ok options) ∧
      ¬∃ options, read (.map [("limit", .null)]) = .ok options := by
  intro entries settings
  obtain ⟨ways, order, places, sets⟩ := configured_as_set
  have fits : ∀ setting ∈ settings, setting.Fits := by
    simp [settings, Setting.Fits]
  obtain ⟨last, unset⟩ := sets settings fits
  have swapped : entries.Perm (Setting.lastEntries settings) :=
    List.Perm.swap ("anchored", Config.boolean true) ("size_limit", Config.integer 10) []
  refine ⟨last entries swapped, order _ _ (List.reverse_perm _).symm (by decide),
    unset .escapeLiterals (by decide), places [.boolean true, .boolean false] (by decide), ?_, ?_,
    ?_⟩
  · rw [(ways _).1]
    exact fun gives => absurd gives.1 (by decide)
  · rw [(ways _).1]
    intro gives
    have accepted : OptionKey.sizeLimit.Accepts (.floating ⟨false, 20, 1⟩) :=
      OptionKey.permits_name_iff.mp (gives _ List.mem_cons_self)
    rcases accepted with impossible | ⟨size, _, impossible⟩ <;> cases impossible
  · rw [(ways _).1]
    intro gives
    obtain ⟨key, named, _⟩ := gives _ List.mem_cons_self
    cases key <;> exact absurd named (by decide)

end Options

end Stencil
