import NodeWatch.Procfs
import NodeWatch.Proofs.Files.Path

/-!
# Where settings are read

The name of a setting is turned into a path, which is joined to the directory of all settings. What
the name gives has no component that leads upwards, but it may be an absolute path, and then it
takes the place of the directory. The main statement is `readSetting_below`.
-/

namespace NodeWatch.Procfs

open Files Text

/-- Whether a path leads on from a directory, without a component that leads upwards. -/
def IsBelow (directory path : Path) : Prop :=
  path.isAbsolute = directory.isAbsolute ∧
    ∃ rest, path.components = directory.components ++ rest ∧ [Files.dot, Files.dot] ∉ rest

def settings (root : Rootfs) : Path :=
  root.join (.ofText "/proc/sys")

lemma settings_eq (root : Rootfs) : settings root = root.path.join (.ofText "proc/sys") := by
  have hfront : (Path.ofText "/proc/sys").fromRoot = .ofText "proc/sys" := by
    decide +kernel
  rw [settings, Rootfs.join, hfront]

lemma names_proc_sys :
    (Path.ofText "proc/sys").names = [encode "proc".toList, encode "sys".toList] := by
  decide +kernel

lemma isAbsolute_settings (root : Rootfs) :
    (settings root).isAbsolute = root.path.isAbsolute := by
  rw [settings_eq, Path.isAbsolute_join _ (by decide +kernel)]

lemma components_settings (root : Rootfs) : (settings root).components =
    root.path.components ++ [encode "proc".toList, encode "sys".toList] := by
  rw [settings_eq, Path.components_join _ (by decide +kernel) (by decide +kernel), names_proc_sys]

/-- A name with slashes for its dots. -/
def spelled (name : String) : Path :=
  ⟨encode (name.toList.map fun c => if c = '.' then '/' else c)⟩

lemma settingPath_eq (root : Rootfs) (name : String) :
    settingPath root name = (settings root).join (spelled name) := rfl

lemma isAbsolute_spelled (name : String) : (spelled name).isAbsolute = true ↔
    name.toList.head? = some '.' ∨ name.toList.head? = some '/' := by
  rw [Path.isAbsolute, beq_iff_eq, slash, spelled, head?_encode_eq_some_iff (by decide),
    List.head?_map]
  rcases name.toList with _ | ⟨c, s⟩
  · simp
  · by_cases hc : c = '.' <;> simp [hc]

/-- No dot is left, so neither `.` nor `..` is among the names. -/
lemma dot_not_mem_names (name : String) (rest : Bytes) :
    Files.dot :: rest ∉ (spelled name).names := by
  intro h
  have hdot := (spelled name).mem_of_mem_names h List.mem_cons_self
  obtain ⟨c, -, hc⟩ := List.mem_map.mp (mem_of_mem_encode (by decide) hdot)
  split_ifs at hc with hc'
  · exact absurd hc (by decide)
  · exact hc' hc

lemma settingPath_of_isAbsolute {name : String} (root : Rootfs)
    (h : (spelled name).isAbsolute = true) : settingPath root name = spelled name := by
  rw [settingPath_eq, Path.join_of_isAbsolute _ h]

lemma isBelow_settingPath {name : String} (root : Rootfs)
    (h : (spelled name).isAbsolute = false) : IsBelow (settings root) (settingPath root name) := by
  refine ⟨(settings root).isAbsolute_join h, (spelled name).names, ?_, dot_not_mem_names name _⟩
  rw [settingPath_eq, Path.components_join _ h (dot_not_mem_names name [])]

/-- An absolute path leads on from the directory only if it spells the directory out. -/
lemma isBelow_spelled_iff {name : String} (root : Rootfs) (h : (spelled name).isAbsolute = true) :
    IsBelow (settings root) (spelled name) ↔
      root.path.isAbsolute = true ∧ (settings root).components <+: (spelled name).names := by
  rw [IsBelow, h, isAbsolute_settings, eq_comm,
    Path.components_of_not_mem (dot_not_mem_names name [])]
  refine and_congr_right fun _ => ?_
  constructor
  · rintro ⟨rest, hrest, -⟩
    exact ⟨rest, hrest.symm⟩
  · rintro ⟨rest, hrest⟩
    refine ⟨rest, hrest.symm, fun hmem => dot_not_mem_names name [Files.dot] ?_⟩
    rw [← hrest]
    exact List.mem_append_right _ hmem

lemma readText_eq (files : Tree) (path : Path) : files.readText path =
    (files.read path).bind fun bytes => (decode bytes).mapError fun _ => Fault.notText := by
  rw [Tree.readText]
  refine congrArg _ (funext fun bytes => ?_)
  rcases decode bytes with _ | text <;> rfl

/-- What is read of a setting depends on what stands at its path, and on nothing else. -/
lemma readSetting_eq (root : Rootfs) (name : String) :
    ∃ f : Except Fault Bytes → Except Error (List Char), ∀ files,
      readSetting files root name = f (files.read (settingPath root name)) := by
  refine ⟨fun content => ((content.bind fun bytes =>
    (decode bytes).mapError fun _ => Fault.notText).map trim).mapError
      (.read (settingPath root name)), fun files => ?_⟩
  rw [readSetting, readTrimmed, readText_eq]

/-- What is read of a setting is what stands at one path. If the name starts neither with a dot nor
with a slash, that path has the components of the root, then `proc` and `sys`, and none behind them
that leads upwards. If it does, the root has no part in the path: it is what the name spells from
the root directory, which is below the directory of all settings only if the name spells that, too.
-/
theorem readSetting_below (root : Rootfs) (name : String) :
    ((settings root).isAbsolute = root.path.isAbsolute ∧ (settings root).components =
      root.path.components ++ [encode "proc".toList, encode "sys".toList]) ∧
    (∃ f : Except Fault Bytes → Except Error (List Char), ∀ files,
      readSetting files root name = f (files.read (settingPath root name)) ∧
        ∀ {α : Type} (parse : List Char → Option α), parseSetting parse files root name =
          f (files.read (settingPath root name)) >>= fun value =>
            (parse value).elim (.error (.setting name (String.ofList value))) .ok) ∧
    (name.toList.head? ≠ some '.' → name.toList.head? ≠ some '/' →
      IsBelow (settings root) (settingPath root name)) ∧
    (name.toList.head? = some '.' ∨ name.toList.head? = some '/' →
      settingPath root name = spelled name ∧ (spelled name).isAbsolute = true ∧
        (IsBelow (settings root) (settingPath root name) ↔ root.path.isAbsolute = true ∧
          (settings root).components <+: (spelled name).names)) := by
  refine ⟨⟨isAbsolute_settings root, components_settings root⟩, ?_, fun hdot hslash => ?_,
    fun hstart => ?_⟩
  · obtain ⟨f, hread⟩ := readSetting_eq root name
    refine ⟨f, fun files => ⟨hread files, fun parse => ?_⟩⟩
    rw [parseSetting, hread]
    refine congrArg _ (funext fun value => ?_)
    rcases parse value with _ | a <;> rfl
  · refine isBelow_settingPath root (Bool.eq_false_iff.mpr fun h => ?_)
    exact (isAbsolute_spelled name).mp h |>.elim hdot hslash
  · have h := (isAbsolute_spelled name).mpr hstart
    rw [settingPath_of_isAbsolute root h]
    exact ⟨rfl, h, isBelow_spelled_iff root h⟩

def mountedRoot : Rootfs :=
  ⟨.ofText "/rootfs"⟩

/-- Dots and slashes within and behind a name do no harm. -/
theorem readSetting_below_trailingDots :
    IsBelow (settings mountedRoot) (settingPath mountedRoot "net/ipv4...conf./.") ∧
      settingPath mountedRoot "/etc.shadow" = .ofText "/etc/shadow" := by
  obtain ⟨-, -, hbelow, -⟩ := readSetting_below mountedRoot "net/ipv4...conf./."
  obtain ⟨-, -, -, haway⟩ := readSetting_below mountedRoot "/etc.shadow"
  exact ⟨hbelow (by decide) (by decide), (haway (.inr (by decide))).1.trans (by decide +kernel)⟩

/-- A name that starts with a dot leads out of the directory. -/
theorem not_isBelow_leadingDot :
    ¬ ∀ (root : Rootfs) (name : String), IsBelow (settings root) (settingPath root name) := by
  intro h
  obtain ⟨-, rest, hrest, -⟩ := h mountedRoot ".kernel.pid_max"
  have hpath : (settingPath mountedRoot ".kernel.pid_max").components =
      [encode "kernel".toList, encode "pid_max".toList] := by
    decide +kernel
  have hroot : (settings mountedRoot).components.length = 3 := by
    decide +kernel
  have hlength := congrArg List.length (hpath.symm.trans hrest)
  rw [List.length_append, hroot] at hlength
  simp at hlength
  omega

end NodeWatch.Procfs
