import OrderRelay.Config
import OrderRelay.Proofs.Text.Trimming
import OrderRelay.Proofs.Text.Values

/-!
# Valid settings

A configuration is read from settings exactly if all of them are valid. What a setting has to be is said of its text
without the blanks at its ends, and a text of blanks is no more than a missing one.

* `Setting.Admits`, what a value has to be, and `Settings.Valid`, a setting that is unset or has such a value;
* `Settings.Gives`, what a setting stands for; `setting_decides`: a setting is read as that, or refused;
* `Config.Usable` and `Config.Reflects`, what is known of a configuration that was read;
* `read_decides`: the settings are read as what they stand for, or the error names one that is not valid;
* `SameButBlanks`, settings that differ in blanks only, and `read_congr`: only values matter;
* **`Config.read_exact`**: what is read, what is refused, and what makes no difference.
-/

namespace OrderRelay

open Text

/-! ## What settings have to be -/

/-- What a value of a setting has to be. -/
def Setting.Admits : Setting → String → Prop
  | recoveryFlag, v => IsCaseVariant "true" v ∨ IsCaseVariant "false" v
  | bindAddress, v => ∃ address, SocketAddress.parse? v = some address
  | triggerPath, v => ∃ c ∈ v.toList, c ≠ '/'
  | partitions, v => ∃ n, IsDecimal v n ∧ 1 ≤ n ∧ n ≤ 2 ^ 31 - 1
  | publishTimeout, v | pollInterval, v => ∃ n, IsDecimal v n ∧ 1 ≤ n ∧ n ≤ 2 ^ 64 - 1
  | namespaceName, _ | baseTopic, _ | servers, _ => True

/-- The message of an error begins with the name of the setting. -/
theorem ConfigError.exists_message_eq (e : ConfigError) : ∃ rest, e.message = e.setting.name ++ rest := by
  cases e <;> simp only [ConfigError.message, ConfigError.setting, String.append_assoc] <;> exact ⟨_, rfl⟩

namespace Settings

variable (settings : Settings) (s : Setting)

/-- Nothing was given, or nothing but blanks. -/
def Unset : Prop := ∀ t, settings s = some t → isBlankText t = true

/-- The setting is unset, or has a value that it admits. -/
def Valid : Prop := ∀ t, settings s = some t → isBlankText t = false → s.Admits (trim t)

/-- The setting stands for `a`: for its usual value if it is unset, and else for what its value means. -/
structure Gives {α : Type} (usual : α) (Means : String → α → Prop) (a : α) : Prop where
  unset : settings.Unset s → a = usual
  set : ∀ t, settings s = some t → isBlankText t = false → Means (trim t) a

/-- Reading comes to something that has the property, or to an error that names a setting which is not valid. -/
def Decides {α : Type} (x : Except ConfigError α) (P : α → Prop) : Prop :=
  (∃ a, x = .ok a ∧ P a) ∨ ∃ e, x = .error e ∧ ¬ settings.Valid e.setting

variable {settings s}

theorem not_unset_iff : ¬ settings.Unset s ↔ ∃ t, settings s = some t ∧ isBlankText t = false := by
  simp only [Unset, not_forall, Bool.not_eq_true, exists_prop]

theorem Unset.valid (h : settings.Unset s) : settings.Valid s := fun t ht hblank =>
  absurd h (not_unset_iff.mpr ⟨t, ht, hblank⟩)

theorem value?_eq_some_iff {v : String} :
    settings.value? s = some v ↔ ∃ t, settings s = some t ∧ isBlankText t = false ∧ trim t = v := by
  have hblank (t : String) : isBlankText t = false ↔ trim t ≠ "" := by
    rw [ne_eq, trim_eq_empty_iff, Bool.not_eq_true]
  unfold value?
  simp only [Option.filter_eq_some_iff, Option.map_eq_some_iff, decide_eq_true_eq, hblank]
  constructor
  · rintro ⟨⟨t, ht, rfl⟩, hne⟩
    exact ⟨t, ht, hne, rfl⟩
  · rintro ⟨t, ht, hne, rfl⟩
    exact ⟨⟨t, ht, rfl⟩, hne⟩

theorem value?_eq_none_iff : settings.value? s = none ↔ settings.Unset s := by
  rw [Option.eq_none_iff_forall_ne_some]
  simp only [ne_eq, value?_eq_some_iff, not_exists, not_and]
  constructor
  · intro h t ht
    by_contra hblank
    exact h _ t ht (Bool.eq_false_iff.mpr hblank) rfl
  · intro h v t ht hblank
    exact absurd h (not_unset_iff.mpr ⟨t, ht, hblank⟩)

section Given

variable {α : Type} {usual a : α} {Means : String → α → Prop}

theorem gives_of_none (h : settings.value? s = none) : settings.Gives s usual Means usual where
  unset _ := rfl
  set t ht hblank := absurd (value?_eq_none_iff.mp h) (not_unset_iff.mpr ⟨t, ht, hblank⟩)

theorem gives_of_some {v : String} (h : settings.value? s = some v) (hv : Means v a) :
    settings.Gives s usual Means a := by
  constructor
  · intro hunset
    exact nomatch h.symm.trans (value?_eq_none_iff.mpr hunset)
  · intro t ht hblank
    have hvalue : settings.value? s = some (trim t) := value?_eq_some_iff.mpr ⟨t, ht, hblank, rfl⟩
    rwa [Option.some.inj (hvalue.symm.trans h)]

theorem Gives.map {β : Type} {f : α → β} {Means' : String → β → Prop} (h : settings.Gives s usual Means a)
    (himp : ∀ v, Means v a → Means' v (f a)) : settings.Gives s (f usual) Means' (f a) :=
  ⟨fun hunset => congrArg f (h.unset hunset), fun t ht hblank => himp _ (h.set t ht hblank)⟩

/-- What holds of the usual value, and of what any value means, holds of what a setting stands for. -/
theorem Gives.holds {P : α → Prop} (h : settings.Gives s usual Means a) (husual : P usual)
    (hmeans : ∀ v, isBlankText v = false → Means v a → P a) : P a := by
  by_cases hunset : settings.Unset s
  · rw [h.unset hunset]
    exact husual
  · obtain ⟨t, ht, hblank⟩ := not_unset_iff.mp hunset
    refine hmeans (trim t) ?_ (h.set t ht hblank)
    rw [← Bool.not_eq_true, ← trim_eq_empty_iff, trim_trim, trim_eq_empty_iff, hblank]
    exact Bool.false_ne_true

theorem Gives.valid (h : settings.Gives s usual Means a) (hadmits : ∀ v, Means v a → s.Admits v) :
    settings.Valid s := fun t ht hblank => hadmits _ (h.set t ht hblank)

end Given

section Decided

variable {α β : Type} {x : Except ConfigError α} {P : α → Prop}

theorem Decides.of_ok {a : α} (h : P a) : settings.Decides (.ok a) P := .inl ⟨a, rfl, h⟩

theorem Decides.of_error {e : ConfigError} (h : ¬ settings.Valid e.setting) : settings.Decides (.error e) P :=
  .inr ⟨e, rfl, h⟩

theorem Decides.bind {f : α → Except ConfigError β} {Q : β → Prop} (hx : settings.Decides x P)
    (hf : ∀ a, P a → settings.Decides (f a) Q) : settings.Decides (x >>= f) Q := by
  rcases hx with ⟨a, rfl, ha⟩ | ⟨e, rfl, he⟩
  · exact hf a ha
  · exact .inr ⟨e, rfl, he⟩

end Decided

end Settings

namespace Config

open Settings

/-! ## What values mean -/

/-- What a flag asks for. -/
def FlagMeans (v : String) (mode : Mode) : Prop :=
  mode = .recovery ∧ IsCaseVariant "true" v ∨ mode = .feed ∧ IsCaseVariant "false" v

/-- What a number of `bits` bits stands for. It is not zero. -/
def NumberMeans (bits : Nat) (v : String) (n : Nat) : Prop := IsDecimal v n ∧ 1 ≤ n ∧ n ≤ 2 ^ bits - 1

/-- What a path stands for: what is left between the slashes at its ends, which is not nothing, behind one slash. -/
def PathMeans (v path : String) : Prop :=
  ∃ before cs after, (∀ c ∈ before, c = '/') ∧ (∀ c ∈ after, c = '/') ∧ v.toList = before ++ cs ++ after ∧
    path.toList = '/' :: cs ∧ cs ≠ [] ∧ cs.head? ≠ some '/' ∧ cs.getLast? ≠ some '/'

section Means

variable {v : String}

theorem modeOf?_eq_some_iff {mode : Mode} : modeOf? v = some mode ↔ FlagMeans v mode := by
  have htrue : v.map Char.toLower = "true" ↔ IsCaseVariant "true" v := map_toLower_eq_iff (by simp)
  have hfalse : v.map Char.toLower = "false" ↔ IsCaseVariant "false" v := map_toLower_eq_iff (by simp)
  simp only [modeOf?, FlagMeans, ← htrue, ← hfalse]
  by_cases ht : v.map Char.toLower = "true"
  · simp [ht, eq_comm]
  · by_cases hf : v.map Char.toLower = "false" <;> simp [ht, hf, eq_comm]

theorem numberOf?_eq_some_iff (bits : Nat) {n : Nat} : numberOf? (2 ^ bits) v = some n ↔ NumberMeans bits v n := by
  unfold numberOf? NumberMeans
  rw [Option.filter_eq_some_iff, decimal?_eq_some_iff, Bool.and_eq_true, decide_eq_true_eq, decide_eq_true_eq]
  have hpos : 0 < 2 ^ bits := Nat.two_pow_pos bits
  refine and_congr_right fun _ => ?_
  omega

theorem stripChar_toList (c : Char) (s : String) : (stripChar c s).toList = stripBy (· == c) s.toList := by
  rw [stripChar, String.toList_ofList]

/-- A path is a slash and what is left of the value between the slashes at its ends. -/
theorem pathOf?_eq_some_iff_toList {path : String} : pathOf? v = some path ↔
    stripBy (· == '/') v.toList ≠ [] ∧ path.toList = '/' :: stripBy (· == '/') v.toList := by
  have hslash : ("/" : String).toList = ['/'] := rfl
  have hempty : (stripChar '/' v).toList = [] ↔ stripChar '/' v = "" := by rw [← String.toList_inj]; rfl
  unfold pathOf?
  rw [← stripChar_toList, ne_eq, hempty]
  by_cases h : stripChar '/' v = ""
  · simp [h]
  · simp [h, ← String.toList_inj, String.toList_append, hslash, eq_comm]

theorem pathOf?_eq_some_iff {path : String} : pathOf? v = some path ↔ PathMeans v path := by
  rw [pathOf?_eq_some_iff_toList]
  constructor
  · rintro ⟨hne, hlist⟩
    obtain ⟨before, after, hbefore, hafter, heq⟩ := exists_eq_stripBy (· == '/') v.toList
    refine ⟨before, _, after, fun c hc => eq_of_beq (hbefore c hc), fun c hc => eq_of_beq (hafter c hc), heq, hlist,
      hne, fun h => ?_, fun h => ?_⟩
    · exact nomatch eq_false_of_head?_stripBy h
    · exact nomatch eq_false_of_getLast?_stripBy h
  · rintro ⟨before, cs, after, hbefore, hafter, hv, hlist, hne, hhead, hlast⟩
    have hstrip : stripBy (· == '/') v.toList = cs := by
      rw [hv, stripBy_append (fun c hc => beq_iff_eq.mpr (hbefore c hc)) fun c hc => beq_iff_eq.mpr (hafter c hc)]
      refine stripBy_eq_self_of_ends (fun c hc => ?_) fun c hc => ?_
      · exact beq_eq_false_iff_ne.mpr fun h => hhead (h ▸ hc)
      · exact beq_eq_false_iff_ne.mpr fun h => hlast (h ▸ hc)
    rw [hstrip]
    exact ⟨hne, hlist⟩

theorem exists_pathMeans_iff : (∃ path, PathMeans v path) ↔ ∃ c ∈ v.toList, c ≠ '/' := by
  simp only [← pathOf?_eq_some_iff, ← Option.isSome_iff_exists]
  have hempty : stripChar '/' v = "" ↔ ∀ c ∈ v.toList, c = '/' := by
    rw [← String.toList_inj, stripChar_toList]
    have hnil : stripBy (· == '/') v.toList = [] ↔ ∀ c ∈ v.toList, (c == '/') = true := stripBy_eq_nil_iff
    simpa using hnil
  unfold pathOf?
  by_cases h : stripChar '/' v = ""
  · simpa [h] using hempty.mp h
  · simpa [h] using mt hempty.mpr h

end Means

/-! ## Reading settings -/

variable {settings : Settings}

/-- A setting is read as what it stands for, or it is refused. -/
theorem setting_decides {α : Type} (settings : Settings) (s : Setting) (usual : α) (of? : String → Option α)
    (refuse : String → ConfigError) (Means : String → α → Prop) (hof : ∀ v a, of? v = some a ↔ Means v a)
    (hadmits : ∀ v, s.Admits v → ∃ a, Means v a) (hrefuse : ∀ v, (refuse v).setting = s) :
    settings.Decides (setting settings s usual of? refuse) (settings.Gives s usual Means) := by
  unfold setting
  cases hv : settings.value? s with
  | none => exact .of_ok (gives_of_none hv)
  | some v =>
    dsimp only
    cases ha : of? v with
    | some a => exact .of_ok (gives_of_some hv ((hof v a).mp ha))
    | none =>
      obtain ⟨t, ht, hblank, rfl⟩ := value?_eq_some_iff.mp hv
      refine .of_error fun hvalid => ?_
      obtain ⟨a, hmeans⟩ := hadmits _ ((hrefuse _ ▸ hvalid) t ht hblank)
      exact nomatch ha.symm.trans ((hof _ a).mpr hmeans)

/-- A text that may be anything is its own value. -/
theorem gives_getD (settings : Settings) (s : Setting) (usual : String) :
    settings.Gives s usual (fun v a => v = a) ((settings.value? s).getD usual) := by
  cases hv : settings.value? s with
  | none => exact gives_of_none hv
  | some v => exact gives_of_some hv rfl

/-! ## What is read -/

/-- What a process can rely on. -/
structure Usable (c : Config) : Prop where
  partitions : 1 ≤ c.partitions ∧ c.partitions ≤ 2 ^ 31 - 1
  publishTimeout : c.publishTimeout ≠ ⟨0⟩
  pollInterval : c.pollInterval ≠ ⟨0⟩
  namespaceName : isBlankText c.topology.namespaceName = false
  baseTopic : isBlankText c.topology.baseTopic = false
  servers : isBlankText c.servers = false
  /-- The path has one slash at its beginning and none at its end. -/
  triggerPath : ∃ cs, c.triggerPath.toList = '/' :: cs ∧ cs.head? ≠ some '/' ∧ c.triggerPath.toList.getLast? ≠ some '/'

/-- The configuration is what the settings stand for. -/
structure Reflects (settings : Settings) (c : Config) : Prop where
  mode : settings.Gives .recoveryFlag .feed FlagMeans c.mode
  bindAddress : settings.Gives .bindAddress (.v4 ⟨0, 0, 0, 0⟩ 8080) (fun v a => SocketAddress.parse? v = some a)
    c.bindAddress
  triggerPath : settings.Gives .triggerPath "/test" PathMeans c.triggerPath
  partitions : settings.Gives .partitions 1 (NumberMeans 31) c.partitions
  publishTimeout : settings.Gives .publishTimeout (.ofMillis 10000)
    (fun v d => ∃ n, NumberMeans 64 v n ∧ d = .ofMillis n) c.publishTimeout
  pollInterval : settings.Gives .pollInterval (.ofMillis 250)
    (fun v d => ∃ n, NumberMeans 64 v n ∧ d = .ofMillis n) c.pollInterval
  namespaceName : settings.Gives .namespaceName "item-handler" (fun v a => v = a) c.topology.namespaceName
  baseTopic : settings.Gives .baseTopic "order-received" (fun v a => v = a) c.topology.baseTopic
  servers : settings.Gives .servers "localhost:9092" (fun v a => v = a) c.servers

section Read

variable {c : Config}

theorem NumberMeans.ofMillis_ne {bits n : Nat} {v : String} (h : NumberMeans bits v n) :
    Duration.ofMillis n ≠ ⟨0⟩ := by
  intro hzero
  have hnanos : n * 1000000 = 0 := congrArg Duration.nanos hzero
  have hpos := h.2.1
  omega

theorem Reflects.usable (h : Reflects settings c) : c.Usable where
  partitions := h.partitions.holds (P := fun n => 1 ≤ n ∧ n ≤ 2 ^ 31 - 1) (by decide) fun v _ hn => hn.2
  publishTimeout := h.publishTimeout.holds (P := (· ≠ ⟨0⟩)) (by decide) fun v _ ⟨n, hn, heq⟩ => heq ▸ hn.ofMillis_ne
  pollInterval := h.pollInterval.holds (P := (· ≠ ⟨0⟩)) (by decide) fun v _ ⟨n, hn, heq⟩ => heq ▸ hn.ofMillis_ne
  namespaceName := h.namespaceName.holds (P := (isBlankText · = false)) (by decide) fun v hv heq => heq ▸ hv
  baseTopic := h.baseTopic.holds (P := (isBlankText · = false)) (by decide) fun v hv heq => heq ▸ hv
  servers := h.servers.holds (P := (isBlankText · = false)) (by decide) fun v hv heq => heq ▸ hv
  triggerPath := by
    refine h.triggerPath.holds (P := fun path => ∃ cs, path.toList = '/' :: cs ∧ cs.head? ≠ some '/' ∧
      path.toList.getLast? ≠ some '/') ⟨['t', 'e', 's', 't'], by decide⟩ fun v _ hpath => ?_
    obtain ⟨before, cs, after, -, -, -, hlist, hne, hhead, hlast⟩ := hpath
    refine ⟨cs, hlist, hhead, ?_⟩
    rw [hlist]
    cases cs with
    | nil => exact absurd rfl hne
    | cons c cs => rwa [List.getLast?_cons_cons]

theorem Reflects.valid (h : Reflects settings c) (s : Setting) : settings.Valid s := by
  cases s with
  | recoveryFlag => exact h.mode.valid fun v hv => hv.imp And.right And.right
  | namespaceName | baseTopic | servers => exact fun _ _ _ => trivial
  | publishTimeout => exact h.publishTimeout.valid fun v ⟨n, hn, _⟩ => ⟨n, hn⟩
  | pollInterval => exact h.pollInterval.valid fun v ⟨n, hn, _⟩ => ⟨n, hn⟩
  | partitions => exact h.partitions.valid fun v hn => ⟨_, hn⟩
  | bindAddress => exact h.bindAddress.valid fun v hv => ⟨_, hv⟩
  | triggerPath => exact h.triggerPath.valid fun v hv => exists_pathMeans_iff.mp ⟨_, hv⟩

/-- A number of partitions may have 31 bits. -/
theorem checkPartitions_decides {n : Nat} (h : settings.Gives .partitions 1 (NumberMeans 64) n) :
    settings.Decides (checkPartitions n) (settings.Gives .partitions 1 (NumberMeans 31)) := by
  unfold checkPartitions
  split
  · rename_i hlt
    have hlt : n < 2 ^ 31 := hlt
    exact .of_ok ⟨h.unset, fun t ht hblank => ⟨(h.set t ht hblank).1, (h.set t ht hblank).2.1, by omega⟩⟩
  · rename_i hge
    have hge : ¬ n < 2 ^ 31 := hge
    refine .of_error fun hvalid => hge ?_
    by_cases hunset : settings.Unset .partitions
    · rw [h.unset hunset]
      decide
    · obtain ⟨t, ht, hblank⟩ := not_unset_iff.mp hunset
      -- A text is a decimal of one number only.
      obtain ⟨m, hm, -, hle⟩ := hvalid t ht hblank
      have hsame := (decimal?_eq_some_iff.mpr hm).symm.trans (decimal?_eq_some_iff.mpr (h.set t ht hblank).1)
      obtain rfl := Option.some.inj hsame
      omega

/-- **Settings are read** as what they stand for, or the error names one that is not valid. -/
theorem read_decides (settings : Settings) : settings.Decides (read settings) (Reflects settings) := by
  have number (s : Setting) (usual : Nat) (hadmits : ∀ v, s.Admits v → ∃ n, NumberMeans 64 v n) :
      settings.Decides (readNumber settings s usual) (settings.Gives s usual (NumberMeans 64)) :=
    setting_decides settings s usual _ _ _ (fun _ _ => numberOf?_eq_some_iff 64) hadmits fun _ => rfl
  unfold read readMode
  refine (setting_decides settings .recoveryFlag _ _ _ FlagMeans (fun _ _ => modeOf?_eq_some_iff)
    (fun v hv => ?_) fun _ => rfl).bind fun mode hmode => ?_
  · rcases hv with hv | hv
    · exact ⟨.recovery, .inl ⟨rfl, hv⟩⟩
    · exact ⟨.feed, .inr ⟨rfl, hv⟩⟩
  refine (setting_decides settings .bindAddress _ _ _ (fun v a => SocketAddress.parse? v = some a)
    (fun _ _ => Iff.rfl) (fun _ hv => hv) fun _ => rfl).bind fun bindAddress hbindAddress => ?_
  refine (setting_decides settings .triggerPath _ _ _ PathMeans (fun _ _ => pathOf?_eq_some_iff)
    (fun _ => exists_pathMeans_iff.mpr) fun _ => rfl).bind fun triggerPath htriggerPath => ?_
  -- The number of partitions is read with 64 bits first, which admits more than is valid.
  refine (number .partitions _ ?_).bind fun n hn => ?_
  · rintro v ⟨n, hn, hpos, hle⟩
    exact ⟨n, hn, hpos, by omega⟩
  refine (number .publishTimeout _ fun _ hv => hv).bind fun publishTimeout hpublishTimeout => ?_
  refine (number .pollInterval _ fun _ hv => hv).bind fun pollInterval hpollInterval => ?_
  refine (checkPartitions_decides hn).bind fun partitions hpartitions => .of_ok ?_
  exact {
    mode := hmode
    bindAddress := hbindAddress
    triggerPath := htriggerPath
    partitions := hpartitions
    publishTimeout := hpublishTimeout.map fun v hv => ⟨_, hv, rfl⟩
    pollInterval := hpollInterval.map fun v hv => ⟨_, hv, rfl⟩
    namespaceName := gives_getD settings .namespaceName _
    baseTopic := gives_getD settings .baseTopic _
    servers := gives_getD settings .servers _ }

theorem reflects_of_read (h : read settings = .ok c) : Reflects settings c := by
  rcases read_decides settings with ⟨c', hread, hreflects⟩ | ⟨e, hread, -⟩
  · rwa [← Except.ok.inj (hread.symm.trans h)]
  · exact nomatch hread.symm.trans h

end Read

end Config

/-! ## What makes no difference -/

/-- The texts differ in nothing but blanks at their ends, or in which of the two is missing while the other one has
nothing but blanks. -/
def SameButBlanks (a b : Option String) : Prop :=
  ((∀ t ∈ a, isBlankText t = true) ∧ ∀ t ∈ b, isBlankText t = true) ∨
    ∃ core before after before' after', isBlankText before = true ∧ isBlankText after = true ∧
      isBlankText before' = true ∧ isBlankText after' = true ∧ a = some (before ++ core ++ after) ∧
      b = some (before' ++ core ++ after')

namespace Settings

variable {settings settings' : Settings}

theorem value?_eq_of_sameButBlanks {s : Setting} (h : SameButBlanks (settings s) (settings' s)) :
    settings.value? s = settings'.value? s := by
  rcases h with ⟨ha, hb⟩ | ⟨core, before, after, before', after', h₁, h₂, h₃, h₄, ha, hb⟩
  · rw [value?_eq_none_iff.mpr ha, value?_eq_none_iff.mpr hb]
  · rw [value?, value?, ha, hb, Option.map_some, Option.map_some, trim_padded h₁ h₂, trim_padded h₃ h₄]

end Settings

namespace Config

variable {settings settings' : Settings}

/-- What is read, and what is reported while reading, depends on the values alone. -/
theorem read_congr (h : ∀ s, settings.value? s = settings'.value? s) :
    read settings = read settings' ∧ readEntries settings = readEntries settings' := by
  simp only [read, readEntries, readMode, readNumber, setting, h, and_self]

/-- **A configuration is read exactly if every setting is valid.** It is then what the settings stand for, and fit to
work with. Otherwise the error names a setting that is not valid, which was therefore given. Blanks make no
difference. -/
theorem read_exact (settings : Settings) :
    ((∃ c, read settings = .ok c) ↔ ∀ s, settings.Valid s) ∧
      (∀ c, read settings = .ok c → Reflects settings c ∧ c.Usable) ∧
      (∀ e, read settings = .error e → ¬ settings.Unset e.setting ∧ ¬ settings.Valid e.setting ∧
        ∃ rest, e.message = e.setting.name ++ rest) ∧
      ∀ settings' : Settings, (∀ s, SameButBlanks (settings s) (settings' s)) →
        read settings' = read settings ∧ readEntries settings' = readEntries settings := by
  have hcongr (settings' : Settings) (h : ∀ s, SameButBlanks (settings s) (settings' s)) :
      read settings' = read settings ∧ readEntries settings' = readEntries settings :=
    read_congr fun s => (Settings.value?_eq_of_sameButBlanks (h s)).symm
  rcases read_decides settings with ⟨c, hread, hreflects⟩ | ⟨e, hread, hinvalid⟩
  · refine ⟨⟨fun _ => hreflects.valid, fun _ => ⟨c, hread⟩⟩, fun c' h => ?_, fun e h => ?_, hcongr⟩
    · obtain rfl := Except.ok.inj (hread.symm.trans h)
      exact ⟨hreflects, hreflects.usable⟩
    · exact nomatch hread.symm.trans h
  · refine ⟨⟨fun ⟨c, h⟩ => ?_, fun h => absurd (h e.setting) hinvalid⟩, fun c h => ?_, fun e' h => ?_, hcongr⟩
    · exact nomatch hread.symm.trans h
    · exact nomatch hread.symm.trans h
    · obtain rfl := Except.error.inj (hread.symm.trans h)
      exact ⟨fun hunset => hinvalid hunset.valid, hinvalid, e.exists_message_eq⟩

end Config

end OrderRelay
