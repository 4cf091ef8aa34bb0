import CmakeDriver.CommandLine.Parse
import Mathlib.Data.List.Forall2

/-!
# Occurrences of options

An option occurs in a command line with the text of its value. Occurrences are settled one after the
other; each makes a setting, and what the settings say of a command can be read off the occurrences
again: which options occur, and with which values.

Results:
* `settleAll_eq_ok_iff`: occurrences are settled exactly if each makes a setting and only variables
  repeat.
* `findSome?_of_makes`, `map_parse_of_makes`: the settings hold the values that were written.
* `configure_eq_iff`, `build_eq_iff`: a command is the one that accounts for each occurrence.
-/

namespace CmakeDriver

namespace CommandLine

/-- An option with the text of its value, as it occurs in a command line. A flag has none, so its
text is empty. -/
structure Occurrence where
  option : Opt
  value : String := ""
  deriving DecidableEq, Repr

/-! ## The values of an option -/

/-- The values with which an option occurs, in order. -/
def valuesOf (o : Opt) (os : List Occurrence) : List String :=
  (os.filter fun occ => occ.option = o).map Occurrence.value

theorem valuesOf_cons (o : Opt) (occ : Occurrence) (os : List Occurrence) :
    valuesOf o (occ :: os) =
      if occ.option = o then occ.value :: valuesOf o os else valuesOf o os := by
  unfold valuesOf
  rw [List.filter_cons]
  by_cases h : occ.option = o <;> simp [h]

theorem valuesOf_append (o : Opt) (os os' : List Occurrence) :
    valuesOf o (os ++ os') = valuesOf o os ++ valuesOf o os' := by
  simp [valuesOf]

theorem valuesOf_eq_nil_iff {o : Opt} {os : List Occurrence} :
    valuesOf o os = [] ↔ ∀ occ ∈ os, occ.option ≠ o := by
  simp [valuesOf]

/-- Only options that may repeat occur again. -/
def Once (os : List Occurrence) : Prop :=
  os.Pairwise fun a b => b.option.mayRepeat = true ∨ a.option ≠ b.option

theorem once_cons_iff {occ : Occurrence} {os : List Occurrence} :
    Once (occ :: os) ↔
      (occ.option.mayRepeat = false → valuesOf occ.option os = []) ∧ Once os := by
  rw [Once, List.pairwise_cons, ← Once, valuesOf_eq_nil_iff]
  refine and_congr_left fun _ => ⟨fun h hn b hb he => ?_, fun h b hb => ?_⟩
  · rcases h b hb with hr | hne
    · rw [he, hn] at hr
      exact absurd hr (by simp)
    · exact hne he.symm
  · cases hr : b.option.mayRepeat with
    | true => exact Or.inl rfl
    | false =>
      refine Or.inr fun he => ?_
      rw [← he] at hr
      exact h hr b hb he.symm

/-- **An option occurs once exactly if it has one value at most.** -/
theorem once_iff {os : List Occurrence} :
    Once os ↔ ∀ o, o.mayRepeat = false → (valuesOf o os).length ≤ 1 := by
  induction os with
  | nil => simp [Once, valuesOf]
  | cons occ os ih =>
    rw [once_cons_iff, ih]
    constructor
    · rintro ⟨hfirst, hrest⟩ o hn
      rw [valuesOf_cons]
      split
      · rename_i he
        subst he
        rw [hfirst hn]
        exact Nat.le_refl 1
      · exact hrest o hn
    · intro h
      refine ⟨fun hn => ?_, fun o hn => ?_⟩
      · have hle := h _ hn
        rw [valuesOf_cons, if_pos rfl, List.length_cons] at hle
        exact List.eq_nil_of_length_eq_zero (by omega)
      · have hle := h o hn
        rw [valuesOf_cons] at hle
        split at hle
        · rw [List.length_cons] at hle
          omega
        · exact hle

/-! ## Settling -/

/-- The setting that an occurrence makes. -/
def Makes (o : Occurrence) (s : Setting) : Prop :=
  Setting.ofValue o.option o.value = .ok s

/-- Settles occurrences, one after the other. -/
def settleAll (settled : List Setting) (os : List Occurrence) : Except UsageError (List Setting) :=
  os.foldlM (fun done o => settle done o.option o.value) settled

theorem settle_eq_ok_iff {done after : List Setting} {o : Opt} {value : String} :
    settle done o value = .ok after ↔
      (o.mayRepeat = true ∨ ∀ s ∈ done, s.option ≠ o) ∧
        ∃ s, Setting.ofValue o value = .ok s ∧ after = done ++ [s] := by
  have hrep : (!o.mayRepeat && done.any fun s => decide (s.option = o)) = true ↔
      ¬ (o.mayRepeat = true ∨ ∀ s ∈ done, s.option ≠ o) := by
    simp
  by_cases h : o.mayRepeat = true ∨ ∀ s ∈ done, s.option ≠ o
  · constructor
    · exact fun hs => ⟨h, settle_eq_ok hs⟩
    · rintro ⟨-, s, hs, rfl⟩
      unfold settle
      rw [if_neg (fun hc => hrep.1 hc h), hs]
  · constructor
    · intro hs
      unfold settle at hs
      rw [if_pos (hrep.2 h)] at hs
      exact absurd hs (by simp)
    · exact fun hs => absurd hs.1 h

theorem settleAll_cons {done after : List Setting} {o : Occurrence} {os : List Occurrence} :
    settleAll done (o :: os) = .ok after ↔
      ∃ next, settle done o.option o.value = .ok next ∧ settleAll next os = .ok after := by
  unfold settleAll
  rw [List.foldlM_cons]
  cases settle done o.option o.value <;> simp [bind, Except.bind]

theorem Makes.option_eq {occ : Occurrence} {s : Setting} (h : Makes occ s) :
    s.option = occ.option :=
  Setting.option_ofValue h

/-- **What is settled**: one setting for each occurrence, behind those that were settled before. -/
theorem settleAll_eq_ok_iff {done after : List Setting} {os : List Occurrence} :
    settleAll done os = .ok after ↔
      (∃ ss, after = done ++ ss ∧ List.Forall₂ Makes os ss) ∧ Once os ∧
        ∀ o ∈ os, o.option.mayRepeat = true ∨ ∀ s ∈ done, s.option ≠ o.option := by
  induction os generalizing done with
  | nil =>
    constructor
    · intro h
      exact ⟨⟨[], by simpa [settleAll, pure, Except.pure] using h.symm, .nil⟩, .nil, by simp⟩
    · rintro ⟨⟨ss, rfl, hs⟩, -, -⟩
      cases hs
      rw [List.append_nil]
      rfl
  | cons o os ih =>
    simp only [settleAll_cons, ih, settle_eq_ok_iff]
    constructor
    · rintro ⟨next, ⟨hfirst, s, hs, rfl⟩, ⟨ss, rfl, hmakes⟩, honce, hrest⟩
      have hso : s.option = o.option := Setting.option_ofValue hs
      refine ⟨⟨s :: ss, by simp, .cons hs hmakes⟩, .cons ?_ honce, ?_⟩
      · intro b hb
        refine (hrest b hb).imp_right fun hne => ?_
        rw [← hso]
        exact hne s (by simp)
      · intro b hb
        rcases List.mem_cons.1 hb with rfl | hb
        · exact hfirst
        · exact (hrest b hb).imp_right fun hne t ht => hne t (List.mem_append_left _ ht)
    · rintro ⟨⟨ss, rfl, hmakes⟩, honce, hrest⟩
      cases hmakes with
      | @cons _ s _ ss hs hmakes =>
        have hso : s.option = o.option := Setting.option_ofValue hs
        have hone := List.pairwise_cons.1 honce
        refine ⟨done ++ [s], ⟨hrest o List.mem_cons_self, s, hs, rfl⟩, ⟨ss, by simp, hmakes⟩,
          hone.2, fun b hb => ?_⟩
        rcases hrest b (List.mem_cons_of_mem _ hb) with hr | hr
        · exact Or.inl hr
        · refine (hone.1 b hb).imp_right fun hne t ht => ?_
          rcases List.mem_append.1 ht with ht | ht
          · exact hr t ht
          · rw [List.mem_singleton.1 ht, hso]
            exact hne

/-- Settling from the start. -/
theorem settleAll_nil_eq_ok_iff {os : List Occurrence} {ss : List Setting} :
    settleAll [] os = .ok ss ↔ List.Forall₂ Makes os ss ∧ Once os := by
  rw [settleAll_eq_ok_iff]
  constructor
  · rintro ⟨⟨_, rfl, hs⟩, ho, -⟩
    exact ⟨hs, ho⟩
  · rintro ⟨hs, ho⟩
    exact ⟨⟨ss, rfl, hs⟩, ho, by simp⟩

/-! ## What settings hold -/

/-- The text of a setting's value, as it is written; that of a flag is empty. -/
def Setting.text : Setting → String
  | config path => path
  | configuration name => name
  | buildFolder path => path
  | toolchain path => path
  | verbose => ""
  | env key value => key ++ "=" ++ value

theorem makes_env_iff {raw : String} {s : Setting} :
    Makes { option := .env, value := raw } s ↔
      ∃ key value, EnvPair.parse raw = .ok (key, value) ∧ s = .env key value := by
  unfold Makes Setting.ofValue
  cases EnvPair.parse raw with
  | error e => simp [Except.map]
  | ok p => simp [Except.map, Prod.ext_iff, eq_comm]

theorem Makes.text_eq {occ : Occurrence} {s : Setting} (h : Makes occ s)
    (hv : occ.option ≠ .verbose) : s.text = occ.value := by
  obtain ⟨o, raw⟩ := occ
  cases o with
  | verbose => exact absurd rfl hv
  | env =>
    obtain ⟨key, value, hp, rfl⟩ := makes_env_iff.1 h
    exact (EnvPair.parse_eq_ok_iff.1 hp).1.symm
  | _ => exact congrArg Setting.text (Except.ok.inj h).symm

/-- An occurrence makes a setting, unless it is a variable whose text is no pair. -/
theorem exists_makes {occ : Occurrence}
    (h : occ.option = .env → ∃ p, EnvPair.parse occ.value = .ok p) : ∃ s, Makes occ s := by
  obtain ⟨o, raw⟩ := occ
  cases o with
  | env =>
    obtain ⟨p, hp⟩ := h rfl
    exact ⟨_, makes_env_iff.2 ⟨p.1, p.2, hp, rfl⟩⟩
  | _ => exact ⟨_, rfl⟩

theorem exists_forall₂_makes {os : List Occurrence}
    (h : ∀ occ ∈ os, occ.option = .env → ∃ p, EnvPair.parse occ.value = .ok p) :
    ∃ ss, List.Forall₂ Makes os ss := by
  induction os with
  | nil => exact ⟨[], .nil⟩
  | cons occ os ih =>
    obtain ⟨s, hs⟩ := exists_makes (h occ List.mem_cons_self)
    obtain ⟨ss, hss⟩ := ih fun b hb => h b (List.mem_cons_of_mem _ hb)
    exact ⟨s :: ss, .cons hs hss⟩

variable {os : List Occurrence} {ss : List Setting}

/-- What looking for an option's values finds in the settings is what was written. -/
theorem filterMap_of_makes (h : List.Forall₂ Makes os ss) {f : Setting → Option String} {o : Opt}
    (ho : o ≠ .verbose) (hf : ∀ s, f s = if s.option = o then some s.text else none) :
    ss.filterMap f = valuesOf o os := by
  induction h with
  | nil => rfl
  | @cons occ s os ss hm _ ih =>
    rw [valuesOf_cons, List.filterMap_cons, hf, ih, hm.option_eq]
    by_cases he : occ.option = o
    · rw [if_pos he, if_pos he, hm.text_eq (he ▸ ho)]
    · rw [if_neg he, if_neg he]

theorem findSome?_of_makes (h : List.Forall₂ Makes os ss) {f : Setting → Option String} {o : Opt}
    (ho : o ≠ .verbose) (hf : ∀ s, f s = if s.option = o then some s.text else none) :
    ss.findSome? f = (valuesOf o os).head? := by
  rw [← List.head?_filterMap, filterMap_of_makes h ho hf]

/-- Of the paths of a configuration the last one counts. -/
theorem config?_of_makes (h : List.Forall₂ Makes os ss) :
    Setting.config? ss = (valuesOf .config os).getLast? := by
  unfold Setting.config?
  rw [← List.head?_filterMap, List.filterMap_reverse, List.head?_reverse,
    filterMap_of_makes (o := .config) h (by decide)]
  intro s
  cases s <;> rfl

theorem contains_verbose_of_makes (h : List.Forall₂ Makes os ss) :
    ss.contains .verbose = true ↔ valuesOf .verbose os ≠ [] := by
  induction h with
  | nil => simp [valuesOf]
  | @cons occ s os ss hm _ ih =>
    rw [valuesOf_cons, List.contains_cons, Bool.or_eq_true, ih]
    by_cases he : occ.option = .verbose
    · obtain ⟨o, raw⟩ := occ
      obtain rfl : o = .verbose := he
      obtain rfl : Setting.verbose = s := Except.ok.inj hm
      simp
    · have hs : s ≠ .verbose := by
        rintro rfl
        exact he hm.option_eq.symm
      simp [he, Ne.symm hs]

theorem map_parse_of_makes (h : List.Forall₂ Makes os ss) :
    (valuesOf .env os).map EnvPair.parse = (Setting.envPairs ss).map .ok := by
  induction h with
  | nil => rfl
  | @cons occ s os ss hm _ ih =>
    unfold Setting.envPairs at ih ⊢
    rw [valuesOf_cons, List.filterMap_cons]
    by_cases he : occ.option = .env
    · obtain ⟨o, raw⟩ := occ
      obtain rfl : o = .env := he
      obtain ⟨key, value, hp, rfl⟩ := makes_env_iff.1 hm
      simp [hp, ih]
    · rw [if_neg he, ih]
      cases s with
      | env key value => exact absurd hm.option_eq.symm he
      | _ => rfl

/-! ## What a command says of the occurrences -/

/-- **Configure options account for occurrences**: an option with a value is there exactly if it
occurs, which it does once, with the value as it is written; the flag is set exactly if it occurs,
once too; and the variables are what the values written for them read as, in order. -/
structure ConfigureOptions.Accounts (o : ConfigureOptions) (os : List Occurrence) : Prop where
  configuration : valuesOf .configuration os = o.configuration.toList
  buildFolder : valuesOf .buildFolder os = o.buildFolder.toList
  toolchain : valuesOf .toolchain os = o.toolchain.toList
  verbose : (valuesOf .verbose os).length = o.verbose.toNat
  env : (valuesOf .env os).map EnvPair.parse = o.env.map .ok

/-- **Build options account for occurrences**, in the same way. -/
structure BuildOptions.Accounts (o : BuildOptions) (os : List Occurrence) : Prop where
  buildFolder : valuesOf .buildFolder os = o.buildFolder.toList
  verbose : (valuesOf .verbose os).length = o.verbose.toNat

theorem eq_toList_iff {l : List String} (h : l.length ≤ 1) {x : Option String} :
    l = x.toList ↔ l.head? = x := by
  match l with
  | [] => cases x <;> simp
  | [a] => cases x <;> simp
  | _ :: _ :: _ => simp at h

theorem length_eq_toNat_iff {l : List String} (h : l.length ≤ 1) {b : Bool} :
    l.length = b.toNat ↔ (b = true ↔ l ≠ []) := by
  match l with
  | [] => cases b <;> simp
  | [a] => cases b <;> simp
  | _ :: _ :: _ => simp at h

theorem configure_eq_iff (h : List.Forall₂ Makes os ss) (ho : Once os) {o : ConfigureOptions} :
    Subcommand.configure.command ss = .configure o ↔ o.Accounts os := by
  have hone := once_iff.1 ho
  have hc : Setting.configuration? ss = (valuesOf .configuration os).head? :=
    findSome?_of_makes h (by decide) fun s => by cases s <;> rfl
  have hb : Setting.buildFolder? ss = (valuesOf .buildFolder os).head? :=
    findSome?_of_makes h (by decide) fun s => by cases s <;> rfl
  have ht : Setting.toolchain? ss = (valuesOf .toolchain os).head? :=
    findSome?_of_makes h (by decide) fun s => by cases s <;> rfl
  have hv := contains_verbose_of_makes h
  have he := map_parse_of_makes h
  obtain ⟨configuration, buildFolder, toolchain, verbose, env⟩ := o
  simp only [Subcommand.command, Command.configure.injEq, ConfigureOptions.mk.injEq, hc, hb, ht]
  constructor
  · rintro ⟨rfl, rfl, rfl, rfl, rfl⟩
    exact ⟨(eq_toList_iff (hone _ rfl)).2 rfl, (eq_toList_iff (hone _ rfl)).2 rfl,
      (eq_toList_iff (hone _ rfl)).2 rfl, (length_eq_toNat_iff (hone _ rfl)).2 hv, he⟩
  · rintro ⟨hc, hb, ht, hvn, hen⟩
    refine ⟨(eq_toList_iff (hone _ rfl)).1 hc, (eq_toList_iff (hone _ rfl)).1 hb,
      (eq_toList_iff (hone _ rfl)).1 ht, ?_, ?_⟩
    · exact Bool.eq_iff_iff.2 (hv.trans ((length_eq_toNat_iff (hone _ rfl)).1 hvn).symm)
    · exact (List.map_inj_right fun _ _ => Except.ok.inj).1 (he.symm.trans hen)

theorem build_eq_iff (h : List.Forall₂ Makes os ss) (ho : Once os) {o : BuildOptions} :
    Subcommand.build.command ss = .build o ↔ o.Accounts os := by
  have hone := once_iff.1 ho
  have hb : Setting.buildFolder? ss = (valuesOf .buildFolder os).head? :=
    findSome?_of_makes h (by decide) fun s => by cases s <;> rfl
  have hv := contains_verbose_of_makes h
  obtain ⟨buildFolder, verbose⟩ := o
  simp only [Subcommand.command, Command.build.injEq, BuildOptions.mk.injEq, hb]
  constructor
  · rintro ⟨rfl, rfl⟩
    exact ⟨(eq_toList_iff (hone _ rfl)).2 rfl, (length_eq_toNat_iff (hone _ rfl)).2 hv⟩
  · rintro ⟨hb, hvn⟩
    refine ⟨(eq_toList_iff (hone _ rfl)).1 hb, ?_⟩
    exact Bool.eq_iff_iff.2 (hv.trans ((length_eq_toNat_iff (hone _ rfl)).1 hvn).symm)

namespace Command

/-- The subcommand of a command. -/
def subcommand : Command → Subcommand
  | configure _ => .configure
  | build _ => .build
  | doctor => .doctor

/-- **A command accounts for the occurrences** behind its subcommand. -/
def Accounts : Command → List Occurrence → Prop
  | configure o, os => o.Accounts os
  | build o, os => o.Accounts os
  | doctor, _ => True

end Command

/-- The settings behind a subcommand make the command that accounts for the occurrences. -/
theorem command_eq_iff (h : List.Forall₂ Makes os ss) (ho : Once os) {s : Subcommand}
    {command : Command} :
    s.command ss = command ↔ command.subcommand = s ∧ command.Accounts os := by
  cases s with
  | configure =>
    cases command with
    | configure o =>
      simp only [configure_eq_iff h ho, Command.subcommand, Command.Accounts, true_and]
    | build o => simp [Subcommand.command, Command.subcommand]
    | doctor => simp [Subcommand.command, Command.subcommand]
  | build =>
    cases command with
    | configure o => simp [Subcommand.command, Command.subcommand]
    | build o => simp only [build_eq_iff h ho, Command.subcommand, Command.Accounts, true_and]
    | doctor => simp [Subcommand.command, Command.subcommand]
  | doctor =>
    cases command with
    | configure o => simp [Subcommand.command, Command.subcommand]
    | build o => simp [Subcommand.command, Command.subcommand]
    | doctor => simp [Subcommand.command, Command.subcommand, Command.Accounts]

end CommandLine

end CmakeDriver
