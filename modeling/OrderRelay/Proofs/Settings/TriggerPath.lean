import OrderRelay.Proofs.Settings.Validity

/-!
# Paths that are given again

The path of a configuration has a slash at its beginning and none at its end, so one expects it to be a normal form:
given in place of the text it was read from, it should be read as itself. It is, unless it ends in a blank. Blanks are
taken away before slashes and not again after them, so a blank that stands before the slashes at the end stays.

* `Settings.withPath`, the settings with another path, and `Config.PathNormal`, what one expects;
* `Settings.Frayed`: a blank stands before the slashes at the end of the path that is given;
* `pathOf?_trim_eq_self` and `length_pathOf?_lt`: a path with no blank at its end is its own path, any other one
  becomes shorter;
* `read_eq_of_path`: which path is given matters for the path alone;
* `endsBlank_iff`: it is the path of frayed settings that ends in a blank; `read_again`, `read_again_of_frayed`;
* **`Config.pathNormal_iff`**, what is read the second time, and **`Config.not_pathNormal`**: a path of nothing but
  slashes and blanks, which is accepted once.
-/

namespace OrderRelay

open Text

/-- The settings with another path in place of the one that was given. -/
def Settings.withPath (settings : Settings) (path : String) : Settings :=
  Function.update settings .triggerPath (some path)

/-- A path is given in which a blank stands before the slashes at its end. -/
def Settings.Frayed (settings : Settings) : Prop :=
  ∃ t front b slashes, settings .triggerPath = some t ∧ (trim t).toList = front ++ b :: slashes ∧
    isBlank b = true ∧ ∀ c ∈ slashes, c = '/'

namespace Config

/-- The path is nothing but slashes and blanks. -/
def HollowPath (path : String) : Prop := ∀ c ∈ path.toList, c = '/' ∨ isBlank c = true

/-- A configuration that is read is read again when its own path is given, and this path is more than slashes and
blanks. -/
structure PathNormal (settings : Settings) : Prop where
  settled : ∀ c, read settings = .ok c → read (settings.withPath c.triggerPath) = .ok c
  solid : ∀ c, read settings = .ok c → ¬ HollowPath c.triggerPath

/-! ## Paths as values -/

/-- The path ends in a blank. -/
def EndsBlank (path : String) : Prop := ∃ b, path.toList.getLast? = some b ∧ isBlank b = true

section Path

variable {path path' : String} {cs : List Char}

theorem isBlank_slash : isBlank '/' = false := by decide

/-- A path that does not end in a blank is its own path. -/
theorem pathOf?_trim_eq_self (hlist : path.toList = '/' :: cs) (hhead : cs.head? ≠ some '/')
    (hlast : path.toList.getLast? ≠ some '/') (hends : ¬ EndsBlank path) : pathOf? (trim path) = some path := by
  have htrim : trim path = path := by
    have hstrip : stripBy isBlank path.toList = path.toList := by
      refine stripBy_eq_self_of_ends (fun c hc => ?_) fun c hc => ?_
      · rw [hlist, List.head?_cons, Option.some_inj] at hc
        exact hc ▸ isBlank_slash
      · exact Bool.eq_false_iff.mpr fun hb => hends ⟨c, hc, hb⟩
    rw [trim, hstrip, String.ofList_toList]
  have hne : cs ≠ [] := by
    rintro rfl
    exact hlast (by rw [hlist]; rfl)
  rw [htrim, pathOf?_eq_some_iff]
  refine ⟨['/'], cs, [], by simp, by simp, by simp [hlist], hlist, hne, hhead, fun h => hlast ?_⟩
  rw [hlist, List.getLast?_cons, h]
  rfl

/-- The path of a path that ends in a blank is shorter: the blank is gone, and one slash comes for those in front. -/
theorem length_pathOf?_lt (hlist : path.toList = '/' :: cs) (hends : EndsBlank path)
    (h : pathOf? (trim path) = some path') : path'.length < path.length := by
  have htrim : (trim path).toList.length < path.toList.length := by
    obtain ⟨b, hlast, hb⟩ := hends
    rw [trim, String.toList_ofList]
    refine length_stripBy_lt fun heq => ?_
    exact absurd hb (by simp [eq_false_of_getLast?_stripBy (heq.symm ▸ hlast)])
  have hslash : (trim path).toList.head? = some '/' := by
    rw [trim, String.toList_ofList]
    exact head?_stripBy (by rw [hlist]; rfl) isBlank_slash
  have hstrip : (stripBy (· == '/') (trim path).toList).length < (trim path).toList.length := by
    refine length_stripBy_lt fun heq => ?_
    exact Bool.noConfusion (eq_false_of_head?_stripBy (p := (· == '/')) (heq.symm ▸ hslash))
  have hpath := congrArg List.length (pathOf?_eq_some_iff_toList.mp h).2
  rw [List.length_cons] at hpath
  rw [← String.length_toList, ← String.length_toList]
  omega

/-- A path that has no slash at its end and is nothing but slashes and blanks ends in a blank. -/
theorem HollowPath.endsBlank (h : HollowPath path) (hlist : path.toList = '/' :: cs)
    (hlast : path.toList.getLast? ≠ some '/') : EndsBlank path := by
  cases hget : path.toList.getLast? with
  | none => exact nomatch hlist.symm.trans (List.getLast?_eq_none_iff.mp hget)
  | some b =>
    rcases h b (List.mem_of_getLast? hget) with rfl | hb
    · exact absurd hget hlast
    · exact ⟨b, hget, hb⟩

/-- The path of a value ends in a blank if a blank stands before the slashes at the end of the value. -/
theorem endsBlank_iff_of_pathMeans {v : String} (h : PathMeans v path) :
    EndsBlank path ↔ ∃ front b slashes, v.toList = front ++ b :: slashes ∧ isBlank b = true ∧
      ∀ c ∈ slashes, c = '/' := by
  constructor
  · rintro ⟨b, hlast, hb⟩
    obtain ⟨before, cs, after, -, hafter, hv, hlist, hne, -, -⟩ := h
    rcases cs.eq_nil_or_concat' with rfl | ⟨init, last, rfl⟩
    · exact absurd rfl hne
    · have hlast : last = b := by simpa [hlist, List.getLast?_cons] using hlast
      exact ⟨before ++ init, b, after, by simp [hv, hlast], hb, hafter⟩
  · rintro ⟨front, b, slashes, hv, hb, hslashes⟩
    obtain ⟨-, hlist⟩ := pathOf?_eq_some_iff_toList.mp (pathOf?_eq_some_iff.mpr h)
    have hne : (b == '/') = false := beq_eq_false_iff_ne.mpr fun heq => by simp [heq, isBlank_slash] at hb
    -- The slashes behind the blank are stripped off, and the blank is not.
    have hstrip : stripBy (· == '/') v.toList = stripBy (· == '/') (front ++ [b]) := by
      have hpadded : v.toList = [] ++ (front ++ [b]) ++ slashes := by simp [hv]
      rw [hpadded]
      exact stripBy_append (by simp) fun c hc => beq_iff_eq.mpr (hslashes c hc)
    refine ⟨b, ?_, hb⟩
    have hlast : (stripBy (· == '/') (front ++ [b])).getLast? = some b := getLast?_stripBy List.getLast?_concat hne
    rw [hlist, hstrip, List.getLast?_cons, hlast]
    rfl

end Path

/-! ## Reading another path -/

section Read

variable {settings settings' : Settings} {c : Config}

/-- Read the path. -/
def readPath (settings : Settings) : Except ConfigError String :=
  setting settings .triggerPath standard.triggerPath pathOf? fun _ => .empty .triggerPath

theorem exists_of_bind_eq_ok {ε α β : Type} {x : Except ε α} {f : α → Except ε β} {b : β}
    (h : (x >>= f) = .ok b) : ∃ a, x = .ok a ∧ f a = .ok b := by
  cases x with
  | error e => exact nomatch h
  | ok a => exact ⟨a, rfl, h⟩

/-- Settings that differ from accepted ones in the path alone are read as far as their path is. -/
theorem read_eq_of_path (h : read settings = .ok c)
    (hsame : ∀ s, s ≠ .triggerPath → settings'.value? s = settings.value? s) :
    read settings' = (readPath settings').map fun path => { c with triggerPath := path } := by
  have hsetting {α : Type} {s : Setting} (hs : s ≠ .triggerPath) (usual : α) (of? : String → Option α)
      (refuse : String → ConfigError) : setting settings' s usual of? refuse = setting settings s usual of? refuse := by
    simp only [setting, hsame s hs]
  unfold read at h
  obtain ⟨mode, hmode, h⟩ := exists_of_bind_eq_ok h
  obtain ⟨bindAddress, haddress, h⟩ := exists_of_bind_eq_ok h
  obtain ⟨path, -, h⟩ := exists_of_bind_eq_ok h
  obtain ⟨n, hn, h⟩ := exists_of_bind_eq_ok h
  obtain ⟨publishTimeout, hpublish, h⟩ := exists_of_bind_eq_ok h
  obtain ⟨pollInterval, hpoll, h⟩ := exists_of_bind_eq_ok h
  obtain ⟨partitions, hpartitions, h⟩ := exists_of_bind_eq_ok h
  obtain rfl := Except.ok.inj h
  unfold readMode at hmode
  unfold readNumber at hn hpublish hpoll
  rw [← hsetting (by decide)] at hmode haddress hn hpublish hpoll
  unfold read readMode readNumber readPath
  rw [hmode, haddress, hn, hpublish, hpoll, hsame _ (by decide : Setting.namespaceName ≠ .triggerPath),
    hsame _ (by decide : Setting.baseTopic ≠ .triggerPath), hsame _ (by decide : Setting.servers ≠ .triggerPath)]
  cases setting settings' .triggerPath standard.triggerPath pathOf? fun _ => ConfigError.empty .triggerPath with
  | error e => rfl
  | ok path =>
    change (checkPartitions n >>= fun partitions => _) = _
    rw [hpartitions]
    rfl

/-- Given again, a path is read once more from its beginning, and everything else as before. -/
theorem read_withPath (h : read settings = .ok c) {cs : List Char} (hlist : c.triggerPath.toList = '/' :: cs) :
    read (settings.withPath c.triggerPath) =
      (pathOf? (trim c.triggerPath)).elim (.error (.empty .triggerPath))
        fun path => .ok { c with triggerPath := path } := by
  have hother (s : Setting) (hs : s ≠ .triggerPath) :
      (settings.withPath c.triggerPath).value? s = settings.value? s := by
    rw [Settings.value?, Settings.value?, Settings.withPath, Function.update_of_ne hs]
  have hvalue : (settings.withPath c.triggerPath).value? .triggerPath = some (trim c.triggerPath) := by
    refine Settings.value?_eq_some_iff.mpr ⟨c.triggerPath, Function.update_self .., ?_, rfl⟩
    refine Bool.eq_false_iff.mpr fun hblank => ?_
    exact absurd (isBlankText_iff.mp hblank '/' (by simp [hlist])) (by decide)
  rw [read_eq_of_path h hother, readPath, setting, hvalue]
  dsimp only
  cases pathOf? (trim c.triggerPath) <;> rfl

/-- The path that was read ends in a blank if the settings are frayed. -/
theorem endsBlank_iff (h : Reflects settings c) : EndsBlank c.triggerPath ↔ settings.Frayed := by
  by_cases hunset : settings.Unset .triggerPath
  · rw [h.triggerPath.unset hunset]
    refine ⟨fun ⟨b, hlast, hb⟩ => ?_, fun ⟨t, front, b, slashes, ht, hlist, _, _⟩ => ?_⟩
    · obtain rfl : 't' = b := Option.some.inj hlast
      exact absurd hb (by decide)
    · rw [trim_eq_empty_iff.mpr (hunset t ht)] at hlist
      exact absurd hlist (by simp)
  · obtain ⟨t, ht, hblank⟩ := Settings.not_unset_iff.mp hunset
    rw [endsBlank_iff_of_pathMeans (h.triggerPath.set t ht hblank)]
    constructor
    · rintro ⟨front, b, slashes, hlist, hb, hslashes⟩
      exact ⟨t, front, b, slashes, ht, hlist, hb, hslashes⟩
    · rintro ⟨t', front, b, slashes, ht', hlist, hb, hslashes⟩
      obtain rfl : t = t' := Option.some.inj (ht.symm.trans ht')
      exact ⟨front, b, slashes, hlist, hb, hslashes⟩

/-- A path that ends in no blank is read as itself. -/
theorem read_again (h : read settings = .ok c) (hfrayed : ¬ settings.Frayed) :
    read (settings.withPath c.triggerPath) = .ok c := by
  have hreflects := reflects_of_read h
  obtain ⟨cs, hlist, hhead, hlast⟩ := hreflects.usable.triggerPath
  have hends : ¬ EndsBlank c.triggerPath := mt (endsBlank_iff hreflects).mp hfrayed
  rw [read_withPath h hlist, pathOf?_trim_eq_self hlist hhead hlast hends]
  rfl

/-- The path of frayed settings is not read as itself. -/
theorem read_again_of_frayed (h : read settings = .ok c) (hfrayed : settings.Frayed) :
    read (settings.withPath c.triggerPath) = .error (.empty .triggerPath) ∨
      ∃ path, path.length < c.triggerPath.length ∧
        read (settings.withPath c.triggerPath) = .ok { c with triggerPath := path } := by
  have hreflects := reflects_of_read h
  obtain ⟨cs, hlist, -, -⟩ := hreflects.usable.triggerPath
  rw [read_withPath h hlist]
  cases hpath : pathOf? (trim c.triggerPath) with
  | none => exact .inl rfl
  | some path => exact .inr ⟨path, length_pathOf?_lt hlist ((endsBlank_iff hreflects).mpr hfrayed) hpath, rfl⟩

theorem frayed_of_hollowPath (h : read settings = .ok c) (hhollow : HollowPath c.triggerPath) : settings.Frayed := by
  have hreflects := reflects_of_read h
  obtain ⟨cs, hlist, -, hlast⟩ := hreflects.usable.triggerPath
  exact (endsBlank_iff hreflects).mp (hhollow.endsBlank hlist hlast)

end Read

/-- **A path that was read is a normal form unless it is frayed.** A frayed one is refused when it is given again, or
makes room for a shorter path. Nothing else changes in either case. -/
theorem pathNormal_iff (settings : Settings) :
    (PathNormal settings ↔ ∀ c, read settings = .ok c → ¬ settings.Frayed) ∧
      ∀ c, read settings = .ok c → settings.Frayed →
        read (settings.withPath c.triggerPath) = .error (.empty .triggerPath) ∨
          ∃ path, path.length < c.triggerPath.length ∧
            read (settings.withPath c.triggerPath) = .ok { c with triggerPath := path } := by
  refine ⟨⟨fun hnormal c hread hfrayed => ?_, fun hsound => ?_⟩, fun c => read_again_of_frayed⟩
  · have hsame := hnormal.settled c hread
    rcases read_again_of_frayed hread hfrayed with herror | ⟨path, hlt, hok⟩
    · exact nomatch herror.symm.trans hsame
    · have hpath : path = c.triggerPath := congrArg triggerPath (Except.ok.inj (hok.symm.trans hsame))
      exact absurd hlt (by simp [hpath])
  · exact {
      settled := fun c hread => read_again hread (hsound c hread)
      solid := fun c hread hhollow => hsound c hread (frayed_of_hollowPath hread hhollow) }

/-- Of two slashes with a blank between them a slash and the blank are left, and this is accepted as a path. Given
again, it is refused as empty. -/
theorem not_pathNormal :
    ¬ PathNormal (Settings.withPath (fun _ => none) "/ /") ∧
      read (Settings.withPath (fun _ => none) "/ /") = .ok { standard with triggerPath := "/ " } ∧
      HollowPath "/ " ∧
      read ((Settings.withPath (fun _ => none) "/ /").withPath "/ ") = .error (.empty .triggerPath) := by
  have hread : read (Settings.withPath (fun _ => none) "/ /") = .ok { standard with triggerPath := "/ " } := by decide
  have hhollow : HollowPath "/ " := by simp [HollowPath, isBlank]
  exact ⟨fun h => h.solid _ hread hhollow, hread, hhollow, by decide⟩

end Config

end OrderRelay
