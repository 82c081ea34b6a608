import RtmpCore.Settings.Codec
import RtmpCore.Support.Lookup

/-!
# Saving changes what was asked for

The file is read in two ways: of several lines for a key the loader takes the
first and the editor the last.  A value is written between quotes as it is.  So a
save changes exactly what was asked for if every new value can stand in a line,
and if the first and the last line for every other key agree.
-/

namespace RtmpCore.Settings

open RtmpCore.Core Text List AList

/-- A word that can be read from a line: it has no line feed and no hash, and
nothing is trimmed off it. -/
structure Legible (word : Bytes) : Prop where
  oneLine : newline ∉ word
  noComment : hash ∉ word
  trimmed : trim isSurrounding word = word

/-- A word that can stand before the colon of a line. -/
structure LegibleKey (key : Bytes) : Prop extends Legible key where
  noColon : colon ∉ key
  nonempty : key ≠ []

instance (word : Bytes) : Decidable (Legible word) :=
  decidable_of_iff (newline ∉ word ∧ hash ∉ word ∧ trim isSurrounding word = word)
    ⟨fun h => ⟨h.1, h.2.1, h.2.2⟩, fun h => ⟨h.1, h.2, h.3⟩⟩

instance (key : Bytes) : Decidable (LegibleKey key) :=
  decidable_of_iff (Legible key ∧ colon ∉ key ∧ key ≠ [])
    ⟨fun h => ⟨h.1, h.2.1, h.2.2⟩, fun h => ⟨h.1, h.2, h.3⟩⟩

/-! ## Reading a line -/

theorem legible_trim {line word : Bytes} (hline : newline ∉ line)
    (hword : word <:+: line.takeWhile (· ≠ hash)) : Legible (trim isSurrounding word) := by
  have hpart : trim isSurrounding word <:+: line.takeWhile (· ≠ hash) :=
    (isInfix_trim isSurrounding word).trans hword
  constructor
  · intro hmem
    exact hline ((List.takeWhile_prefix _).subset (hpart.subset hmem))
  · intro hmem
    simpa using mem_takeWhile_imp (hpart.subset hmem)
  · exact trim_trim isSurrounding word

theorem legible_of_parseLine {line key value : Bytes} (hline : newline ∉ line)
    (h : parseLine line = some (key, value)) : LegibleKey key ∧ Legible value := by
  obtain ⟨⟨front, back⟩, hcut, hent⟩ := Option.bind_eq_some_iff.mp h
  dsimp only at hent
  split_ifs at hent with hemp
  cases hent
  obtain ⟨hparts, hcolon⟩ := cut_eq_some hcut
  have hfront : front <:+: line.takeWhile (· ≠ hash) := ⟨[], colon :: back, by simpa using hparts⟩
  have hback : back <:+: line.takeWhile (· ≠ hash) := ⟨front ++ [colon], [], by simpa using hparts⟩
  refine ⟨⟨legible_trim hline hfront, ?_, hemp⟩, legible_trim hline hback⟩
  exact fun hmem => hcolon ((isInfix_trim isSurrounding front).subset hmem)

theorem legible_of_mem_assignments {text : Bytes} {entry : Bytes × Bytes}
    (h : entry ∈ assignments text) : LegibleKey entry.1 ∧ Legible entry.2 := by
  obtain ⟨line, hline, hent⟩ := mem_filterMap.mp h
  exact legible_of_parseLine (notMem_of_mem_lines hline) hent

/-! ## Writing a line -/

namespace Codec

def settingText (entry : Bytes × Bytes) : Bytes :=
  entry.1 ++ colon :: ([0x20, 0x22] ++ (entry.2 ++ [0x22]))

theorem settingLine_eq (entry : Bytes × Bytes) :
    settingLine entry = settingText entry ++ [newline] := by
  have hmiddle : ": \"" = [colon, 0x20, 0x22] := rfl
  have hend : "\"\n" = [0x22, newline] := rfl
  simp [settingLine, settingText, hmiddle, hend]

variable {entry : Bytes × Bytes}

theorem mem_settingText {b : UInt8} (h : b ∈ settingText entry) :
    b ∈ entry.1 ∨ b ∈ entry.2 ∨ b ∈ [colon, 0x20, 0x22] := by
  simp only [settingText, mem_append, mem_cons] at h ⊢
  tauto

theorem parseLine_settingText (hkey : LegibleKey entry.1) (hval : Legible entry.2) :
    parseLine (settingText entry) = some entry := by
  have hunc : (settingText entry).takeWhile (· ≠ hash) = settingText entry := by
    rw [takeWhile_eq_self_iff]
    intro b hb
    rw [decide_eq_true_eq]
    rintro rfl
    rcases mem_settingText hb with hmem | hmem | hmem
    · exact hkey.noComment hmem
    · exact hval.noComment hmem
    · exact absurd hmem (by decide)
  have hquoted : trim isSurrounding ([0x20, 0x22] ++ (entry.2 ++ [0x22])) = entry.2 := by
    rw [trim_surround (by decide +kernel) (by decide +kernel), hval.trimmed]
  rw [parseLine, hunc, settingText, cut_append hkey.noColon, Option.bind_some]
  dsimp only
  rw [hkey.trimmed, if_neg hkey.nonempty, hquoted]

/-- The lines of the heading, which are comments. -/
def headingLines : List Bytes :=
  ["# Managed by the StreamForge admin Settings page.",
    textBytes ("# Comments and key ordering are not preserved across a save " ++ "from that page.")]

theorem serializeFlatMapping_eq (values : Mapping) : serializeFlatMapping values =
      unlines newline (headingLines ++ (ordered values).map settingText) := by
  have hline : settingLine = fun entry => settingText entry ++ [newline] := funext settingLine_eq
  rw [unlines_append, serializeFlatMapping, hline]
  congr 1
  rw [unlines, flatMap_map]

theorem assignments_serializeFlatMapping {values : Mapping}
    (h : ∀ entry ∈ ordered values, LegibleKey entry.1 ∧ Legible entry.2) :
    assignments (serializeFlatMapping values) = ordered values := by
  have hheading : ∀ line ∈ headingLines, newline ∉ line := by decide +kernel
  have hlines : ∀ line ∈ headingLines ++ (ordered values).map settingText, newline ∉ line := by
    intro line hline hmem
    rcases mem_append.mp hline with hcomment | hsetting
    · exact hheading line hcomment hmem
    · obtain ⟨entry, hent, rfl⟩ := mem_map.mp hsetting
      rcases mem_settingText hmem with hkey | hval | hpunc
      · exact (h entry hent).1.oneLine hkey
      · exact (h entry hent).2.oneLine hval
      · exact absurd hpunc (by decide)
  rw [assignments, serializeFlatMapping_eq, lines_unlines hlines, filterMap_append, filterMap_map]
  calc
    (ordered values).filterMap (parseLine ∘ settingText) = (ordered values).filterMap some :=
      filterMap_congr fun entry hent => parseLine_settingText (h entry hent).1 (h entry hent).2
    _ = ordered values := filterMap_some

/-! ## The settings in order -/

theorem mem_ordered {values : Mapping} {key value : Bytes} :
    (key, value) ∈ ordered values ↔ values.lookup key = some value := by
  rw [ordered, mem_append, mem_filterMap, mem_map]
  constructor
  · rintro (⟨setting, -, hval⟩ | ⟨⟨key', value'⟩, hent, hpair⟩)
    · obtain ⟨value', hlook, hpair⟩ := Option.map_eq_some_iff.mp hval
      cases hpair
      exact hlook
    · cases hpair
      exact mem_lookup_iff.mpr (mem_of_mem_filter hent)
  · intro hval
    by_cases hkn : settings.any (fun setting => setting.1 = key) = true
    · obtain ⟨setting, hsetting, hkey⟩ := any_eq_true.mp hkn
      obtain rfl : setting.1 = key := of_decide_eq_true hkey
      exact .inl ⟨setting, hsetting, by rw [hval]; rfl⟩
    · refine .inr ⟨⟨key, value⟩, mem_filter.mpr ⟨?_, ?_⟩, rfl⟩
      · exact mem_lookup_iff.mp hval
      · rw [Bool.not_eq_true] at hkn
        rw [hkn]
        rfl

theorem lookup_ordered (values : Mapping) (key : Bytes) :
    (ordered values).lookup key = values.lookup key :=
  Table.lookup_eq_of_mem_iff fun _ => mem_ordered

end Codec

/-! ## The two readings of a file -/

theorem Config.lookup_parseFlatMapping (text key : Bytes) :
    (Config.parseFlatMapping text).lookup key = (assignments text).lookup key := by
  rw [Config.parseFlatMapping, Table.lookup_foldl_emplace, lookup_empty, Option.none_or]

theorem Codec.lookup_parseFlatMapping (text key : Bytes) :
    (Codec.parseFlatMapping text).lookup key = (assignments text).reverse.lookup key := by
  rw [Codec.parseFlatMapping, Table.lookup_foldl_insert_pairs, lookup_empty, Option.or_none]

theorem legible_of_lookup {text key value : Bytes}
    (h : (Config.parseFlatMapping text).lookup key = some value) : Legible value := by
  rw [Config.lookup_parseFlatMapping] at h
  exact (legible_of_mem_assignments (Table.mem_of_lookup h)).2

/-! ## The updates -/

/-- The updates as they are made: every duration has its unit. -/
def updated (updates : Mapping) (key : Bytes) : Option Bytes :=
  (updates.lookup key).map (withUnit key)

theorem foldlM_mergeUpdate {updates : List ((_ : Bytes) × Bytes)}
    {values merged : Mapping} (h : updates.foldlM mergeUpdate values = .ok merged) :
    (∀ update ∈ updates, (settings.lookup update.1).isSome) ∧
      merged = (updates.map fun update => (update.1, withUnit update.1 update.2)).foldl
        (fun out entry => out.insert entry.1 entry.2) values := by
  induction updates generalizing values with
  | nil =>
    cases h
    exact ⟨fun _ hmem => (not_mem_nil hmem).elim, rfl⟩
  | cons update rest ih =>
    obtain ⟨values', hstep, hrest⟩ := bind_eq_ok.mp h
    unfold mergeUpdate at hstep
    split_ifs at hstep with hunk
    cases hstep
    obtain ⟨hkn, hmrg⟩ := ih hrest
    refine ⟨forall_mem_cons.mpr ⟨?_, hkn⟩, hmrg⟩
    rwa [Option.isSome_iff_ne_none, ne_eq, ← Option.isNone_iff_eq_none]

theorem lookup_merged {updates values merged : Mapping}
    (h : updates.entries.foldlM mergeUpdate values = .ok merged) (key : Bytes) :
    merged.lookup key = (updated updates key).or (values.lookup key) := by
  rw [(foldlM_mergeUpdate h).2, Table.lookup_foldl_insert_pairs]
  congr 1
  apply Table.lookup_eq_of_mem_iff
  intro value
  rw [mem_reverse, mem_map, updated, Option.map_eq_some_iff]
  constructor
  · rintro ⟨⟨key', value'⟩, hent, hpair⟩
    cases hpair
    exact ⟨value', mem_lookup_iff.mpr hent, rfl⟩
  · rintro ⟨value', hlook, rfl⟩
    exact ⟨⟨key, value'⟩, mem_lookup_iff.mp hlook, rfl⟩

theorem legibleKey_of_setting {key : Bytes} (h : (settings.lookup key).isSome) :
    LegibleKey key := by
  have hall : ∀ setting ∈ settings, LegibleKey setting.1 := by decide +kernel
  obtain ⟨type, htype⟩ := Option.isSome_iff_exists.mp h
  exact hall (key, type) (Table.mem_of_lookup htype)

theorem mem_isDecimal_range {b : UInt8} (h : isDecimal b = true) :
    b ≠ newline ∧ b ≠ hash ∧ isSurrounding b = false := by
  have hall : ∀ n : Fin 256, isDecimal (UInt8.ofNat n) = true →
      UInt8.ofNat n ≠ newline ∧ UInt8.ofNat n ≠ hash ∧
        isSurrounding (UInt8.ofNat n) = false := by decide +kernel
  simpa using hall ⟨b.toNat, b.toNat_lt⟩ (by simpa using h)

theorem legible_withUnit (key value : Bytes) : Legible (withUnit key value) ↔ Legible value := by
  unfold withUnit
  split_ifs with hbare
  · obtain ⟨-, -, hdigs⟩ := hbare
    rw [all_eq_true] at hdigs
    have hplain : ∀ word : Bytes,
        (∀ b ∈ word, b ≠ newline ∧ b ≠ hash ∧ isSurrounding b = false) → Legible word :=
      fun word h => ⟨fun hmem => (h _ hmem).1 rfl, fun hmem => (h _ hmem).2.1 rfl,
        trim_eq_self fun b hb => (h b hb).2.2⟩
    have hval : ∀ b ∈ value, b ≠ newline ∧ b ≠ hash ∧ isSurrounding b = false :=
      fun b hb => mem_isDecimal_range (hdigs b hb)
    have hunit : ∀ b ∈ textBytes "ms", b ≠ newline ∧ b ≠ hash ∧ isSurrounding b = false := by
      decide +kernel
    constructor
    · exact fun _ => hplain value hval
    · intro _
      apply hplain
      intro b hb
      exact (mem_append.mp hb).elim (hval b) (hunit b)
  · rfl

/-! ## A save -/

/-- What a save must meet to change what was asked for: the new values can stand in
a line, and for every other key the first and the last line of the old file
agree. -/
structure Faithful (text : Bytes) (updates : Mapping) : Prop where
  legible : ∀ key value, updates.lookup key = some value → Legible value
  agreed : ∀ key, key ∉ updates →
    (assignments text).lookup key = (assignments text).reverse.lookup key

/-- A duration that is a bare number is given its unit. -/
def NamesUnits (updates : Mapping) : Prop :=
  ∀ key value, updates.lookup key = some value → withUnit key value = value

section Save

variable {env : Bytes → Option Bytes} {disk : Disk} {path : String}
  {text : Bytes} {updates : Mapping} {saved : Saved}

theorem exists_merged (h : applySettingsUpdates env disk path (some text) updates = .ok saved) :
    ∃ merged, updates.entries.foldlM mergeUpdate (Codec.parseFlatMapping text) =
      .ok merged ∧ saved.text = Codec.serializeFlatMapping merged := by
  obtain ⟨merged, hmrg, h⟩ := bind_eq_ok.mp h
  refine ⟨merged, hmrg, ?_⟩
  cases hopens : disk.opensTemp with
  | false =>
    rw [hopens] at h
    cases h
  | true =>
    rw [hopens] at h
    obtain ⟨cfg, -, h⟩ := bind_eq_ok.mp h
    cases hrenames : disk.renames with
    | false =>
      rw [hrenames] at h
      cases h
    | true =>
      rw [hrenames] at h
      cases h
      rfl

theorem lookup_saved (h : applySettingsUpdates env disk path (some text) updates = .ok saved)
    (hleg : ∀ key value, updates.lookup key = some value → Legible value) (key : Bytes) :
    (Config.parseFlatMapping saved.text).lookup key =
      (updated updates key).or ((assignments text).reverse.lookup key) := by
  obtain ⟨merged, hmrg, htext⟩ := exists_merged h
  have hord : ∀ entry ∈ Codec.ordered merged, LegibleKey entry.1 ∧ Legible entry.2 := by
    rintro ⟨key, value⟩ hent
    rw [Codec.mem_ordered, lookup_merged hmrg, Codec.lookup_parseFlatMapping,
      Option.or_eq_some_iff] at hent
    rcases hent with hupdate | ⟨-, hold⟩
    · obtain ⟨given, hgiven, rfl⟩ := Option.map_eq_some_iff.mp hupdate
      refine ⟨legibleKey_of_setting ?_, ?_⟩
      · exact (foldlM_mergeUpdate hmrg).1 ⟨key, given⟩ (mem_lookup_iff.mp hgiven)
      · exact (legible_withUnit key given).mpr (hleg key given hgiven)
    · exact legible_of_mem_assignments (mem_reverse.mp (Table.mem_of_lookup hold))
  rw [htext, Config.lookup_parseFlatMapping,
    Codec.assignments_serializeFlatMapping hord, Codec.lookup_ordered,
    lookup_merged hmrg, Codec.lookup_parseFlatMapping]

theorem lookup_updated_of_notMem {key : Bytes} (h : key ∉ updates) :
    updated updates key = none := by
  rw [updated, lookup_eq_none.mpr h]
  rfl

/-- If every new value can be read where it was written, the rest of the file is as
it was if its two readings agree. -/
theorem agreed_iff (h : applySettingsUpdates env disk path (some text) updates = .ok saved)
    (hleg : ∀ key value, updates.lookup key = some value → Legible value) :
    (∀ key, (Config.parseFlatMapping saved.text).lookup key =
        (updated updates key).or ((Config.parseFlatMapping text).lookup key)) ↔
      ∀ key, key ∉ updates →
        (assignments text).lookup key = (assignments text).reverse.lookup key := by
  simp only [lookup_saved h hleg, Config.lookup_parseFlatMapping]
  constructor
  · intro hsame key hkey
    have hkept := hsame key
    rw [lookup_updated_of_notMem hkey] at hkept
    exact hkept.symm
  · intro hagreed key
    by_cases hkey : key ∈ updates
    · obtain ⟨value, hval⟩ := Option.isSome_iff_exists.mp (lookup_isSome.mpr hkey)
      rw [updated, hval]
      rfl
    · rw [lookup_updated_of_notMem hkey, Option.none_or, Option.none_or, hagreed key hkey]

theorem saved_iff_faithful
    (h : applySettingsUpdates env disk path (some text) updates = .ok saved) :
    (∀ key, (Config.parseFlatMapping saved.text).lookup key =
        (updated updates key).or ((Config.parseFlatMapping text).lookup key)) ↔
      Faithful text updates := by
  constructor
  · intro hsame
    have hleg : ∀ key value, updates.lookup key = some value → Legible value := by
      intro key value hval
      have hread := hsame key
      rw [updated, hval] at hread
      exact (legible_withUnit key value).mp (legible_of_lookup hread)
    exact ⟨hleg, (agreed_iff h hleg).mp hsame⟩
  · intro hfaith
    exact (agreed_iff h hfaith.legible).mpr hfaith.agreed

/-- After a save the loader reads what it read before with the updates over it,
durations with their units, exactly if the new values can stand in a line and the
two readings of the old file agree on every other key; and then the updates are
read as they were given exactly if they name their units.  Every other setting is
then in effect as it was, whatever the environment overrides. -/
theorem save_changes_updates_iff
    (h : applySettingsUpdates env disk path (some text) updates = .ok saved) :
    ((∀ key, (Config.parseFlatMapping saved.text).lookup key =
        (updated updates key).or ((Config.parseFlatMapping text).lookup key)) ↔
      Faithful text updates) ∧
    ((∀ key, (Config.parseFlatMapping saved.text).lookup key =
        (updates.lookup key).or ((Config.parseFlatMapping text).lookup key)) ↔
      Faithful text updates ∧ NamesUnits updates) ∧
    (Faithful text updates → ∀ key, key ∉ updates →
      applyEnvOverrides env (Config.parseFlatMapping saved.text) key =
        applyEnvOverrides env (Config.parseFlatMapping text) key) := by
  have hnamed : NamesUnits updates → ∀ key, updated updates key = updates.lookup key := by
    intro hunits key
    rw [updated]
    cases hvalue : updates.lookup key with
    | none => rfl
    | some value => rw [Option.map_some, hunits key value hvalue]
  refine ⟨saved_iff_faithful h, ⟨?_, ?_⟩, ?_⟩
  · intro hsame
    have hlegible : ∀ key value, updates.lookup key = some value → Legible value := by
      intro key value hvalue
      have hread := hsame key
      rw [hvalue] at hread
      exact legible_of_lookup hread
    have hunits : NamesUnits updates := by
      intro key value hvalue
      have hread := hsame key
      rw [lookup_saved h hlegible, updated, hvalue] at hread
      exact Option.some.inj hread
    refine ⟨(saved_iff_faithful h).mp fun key => ?_, hunits⟩
    rw [hnamed hunits key]
    exact hsame key
  · rintro ⟨hfaithful, hunits⟩ key
    rw [← hnamed hunits key]
    exact (saved_iff_faithful h).mpr hfaithful key
  · intro hfaithful key hkey
    rw [applyEnvOverrides, (saved_iff_faithful h).mpr hfaithful key,
      lookup_updated_of_notMem hkey, Option.none_or, applyEnvOverrides]

end Save

/-! ## Two files -/

theorem agreed_of_nodup {text : Bytes} (h : ((assignments text).map Prod.fst).Nodup) (key : Bytes) :
    (assignments text).lookup key = (assignments text).reverse.lookup key := by
  apply Table.lookup_eq_of_mem_iff
  intro value
  constructor
  · intro hmem
    have hsome : ((assignments text).reverse.lookup key).isSome :=
      lookup_isSome_iff.mpr ⟨(key, value), mem_reverse.mpr hmem, beq_self_eq_true _⟩
    obtain ⟨value', hval'⟩ := Option.isSome_iff_exists.mp hsome
    have hmem' := mem_reverse.mp (Table.mem_of_lookup hval')
    have hsame : (key, value) = (key, value') := inj_on_of_nodup_map h hmem hmem' rfl
    cases hsame
    exact hval'
  · exact fun hlook => mem_reverse.mp (Table.mem_of_lookup hlook)

theorem exists_ok_of_any {ε α : Type} {result : Except ε α} {p : α → Bool}
    (h : result.toOption.any p = true) : ∃ a, result = .ok a ∧ p a = true := by
  cases result with
  | error e => cases h
  | ok a => exact ⟨a, rfl, h⟩

def secrets : Bytes :=
  "token_signing_secret: abcdefghijklmnopqrstuvwxyz0123456789\n" ++
    "api_authentication_secret: 0123456789abcdefghijklmnopqrstuvwxyz\n"

/-- A file with a line for every key that it sets. -/
def plainFile : Bytes := "rtmp_port: 1936 # not the usual one\nidle_timeout: 30s\n" ++ secrets

/-- A file in which a port was changed by a line in front of the old one. -/
def repeatedPort : Bytes := "rtmp_port: 1936\nrtmp_port: 1999\n" ++ secrets

def quieter : Mapping := (∅ : Mapping).insert "log_level" "warn"

def noOverrides (_ : Bytes) : Option Bytes := none

theorem faithful_quieter : Faithful plainFile quieter where
  legible := by
    intro key value hval
    have hall : ∀ entry ∈ quieter.entries, Legible entry.2 := by decide +kernel
    exact hall ⟨key, value⟩ (mem_lookup_iff.mp hval)
  agreed key _ := agreed_of_nodup (by decide +kernel) key

theorem save_quieter_port :
    ∃ saved, applySettingsUpdates noOverrides ⟨true, true⟩ "server.yaml" (some plainFile)
        quieter = .ok saved ∧
      applyEnvOverrides noOverrides (Config.parseFlatMapping saved.text)
          "rtmp_port" =
        applyEnvOverrides noOverrides (Config.parseFlatMapping plainFile)
          "rtmp_port" := by
  obtain ⟨saved, hsaved, -⟩ := exists_ok_of_any
    (show (applySettingsUpdates noOverrides ⟨true, true⟩ "server.yaml" (some plainFile)
      quieter).toOption.any (fun _ => true) = true by decide +kernel)
  exact ⟨saved, hsaved, (save_changes_updates_iff hsaved).2.2 faithful_quieter _
    (by decide +kernel)⟩

/-- Saving another log level moves the port. -/
theorem save_quieter_moves_port :
    ∃ saved, applySettingsUpdates noOverrides ⟨true, true⟩ "server.yaml"
        (some repeatedPort) quieter = .ok saved ∧
      textBytes "rtmp_port" ∉ quieter ∧
      (Config.parseFlatMapping repeatedPort).lookup (textBytes "rtmp_port") =
        some (textBytes "1936") ∧
      (Config.parseFlatMapping saved.text).lookup (textBytes "rtmp_port") =
        some (textBytes "1999") ∧
      saved.config.rtmpPort = 1999 := by
  obtain ⟨saved, hsaved, hport⟩ := exists_ok_of_any
    (show (applySettingsUpdates noOverrides ⟨true, true⟩ "server.yaml" (some repeatedPort)
      quieter).toOption.any (fun saved => decide
        ((Config.parseFlatMapping saved.text).lookup (textBytes "rtmp_port") =
          some (textBytes "1999") ∧ saved.config.rtmpPort = 1999)) = true by decide +kernel)
  exact ⟨saved, hsaved, by decide +kernel, by decide +kernel, of_decide_eq_true hport⟩

end RtmpCore.Settings
