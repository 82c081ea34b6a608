import RtmpCore.Transcode.Preset

/-!
# The output names of presets

An output name is a template: bytes of names and places for the source.  What
the parser checks on templates is compared with what is needed of the names
that a source gets.
-/

namespace RtmpCore.Transcode

open RtmpCore.Core Text List

/-! ## Templates -/

/-- A byte of a template, or a place for the name of the source. -/
inductive Token where
  | byte (b : UInt8)
  | source
deriving DecidableEq

namespace Token

def filled (source : Bytes) : Token → Bytes
  | .byte b => [b]
  | .source => source

/-- The token is a byte of a name or a place. -/
def isPlain : Token → Bool
  | .byte b => isNameByte b
  | .source => true

end Token

def tokensOf : Bytes → List Token
  | 0x7B :: 0x73 :: 0x6F :: 0x75 :: 0x72 :: 0x63 :: 0x65 :: 0x7D :: rest => .source :: tokensOf rest
  | b :: rest => .byte b :: tokensOf rest
  | [] => []

variable (source : Bytes)

/-- The text with the name of the source in its places. -/
def fill (tokens : List Token) : Bytes := tokens.flatMap (Token.filled source)

@[simp] theorem fill_nil : fill source [] = [] := rfl

@[simp] theorem fill_cons (token : Token) (rest : List Token) :
    fill source (token :: rest) = token.filled source ++ fill source rest :=
  flatMap_cons

theorem tokensOf_byte {b : UInt8} {rest : Bytes} (h : ¬ placeholder <+: b :: rest) :
    tokensOf (b :: rest) = .byte b :: tokensOf rest := by
  rw [tokensOf]
  rintro rest' rfl rfl
  exact h (prefix_append placeholder rest')

theorem replaceAll_eq_fill {text : Bytes} {rounds : ℕ} (hrnds : text.length ≤ rounds) :
    replaceAll placeholder source rounds text = fill source (tokensOf text) := by
  induction hn : text.length using Nat.strongRecOn generalizing text rounds with
  | ind n ih =>
    by_cases hplace : placeholder <+: text
    · obtain ⟨rest, rfl⟩ := hplace
      have hlen : (placeholder ++ rest).length = rest.length + 8 := by rfl
      obtain ⟨fewer, rfl⟩ : ∃ fewer, rounds = fewer + 1 := ⟨rounds - 1, by omega⟩
      rw [replaceAll_front, ih rest.length (by omega) (by omega) rfl]
      rfl
    · cases text with
      | nil => cases rounds <;> rfl
      | cons b rest =>
        rw [tokensOf_byte hplace, replaceAll_cons hplace,
          ih rest.length (by simp at hn; omega) (by simp at hrnds; omega) rfl]
        rfl

theorem expand_eq_fill (source name : Bytes) : expand source name = fill source (tokensOf name) :=
  replaceAll_eq_fill source le_rfl

theorem eq_fill_placeholder (name : Bytes) : fill placeholder (tokensOf name) = name := by
  induction name using tokensOf.induct with
  | case1 rest ih => exact congrArg (placeholder ++ ·) ih
  | case2 b rest hother ih =>
    rw [tokensOf.eq_2 _ _ hother, fill_cons, ih]
    rfl
  | case3 => rfl

theorem tokensOf_injective : Function.Injective tokensOf := by
  intro name name' h
  rw [← eq_fill_placeholder name, h, eq_fill_placeholder]

/-! ## Names -/

section Names

variable {source : Bytes} {tokens : List Token}

theorem validName_iff {name : Bytes} : validName name = true ↔
      name ≠ [] ∧ name.length ≤ 128 ∧ ∀ b ∈ name, isNameByte b = true := by
  simp [validName, and_assoc]

/-- The bytes of a template, not counting its places. -/
def bytesIn (tokens : List Token) : ℕ := tokens.countP (· ≠ .source)

def placesIn (tokens : List Token) : ℕ := tokens.countP (· = .source)

theorem length_fill (source : Bytes) (tokens : List Token) : (fill source tokens).length =
      bytesIn tokens + placesIn tokens * source.length := by
  induction tokens with
  | nil => simp [bytesIn, placesIn]
  | cons token rest ih =>
    rw [fill_cons, length_append, ih]
    cases token with
    | byte b =>
      simp [bytesIn, placesIn, Token.filled]
      omega
    | source =>
      simp [bytesIn, placesIn, Token.filled, Nat.succ_mul]
      omega

theorem isPlain_of_fill (h : ∀ b ∈ fill source tokens, isNameByte b = true) :
    ∀ token ∈ tokens, token.isPlain = true := by
  intro token htoken
  cases token with
  | source => rfl
  | byte b => exact h b (mem_flatMap.mpr ⟨.byte b, htoken, by simp [Token.filled]⟩)

theorem isNameByte_fill (hplain : ∀ token ∈ tokens, token.isPlain = true)
    (hsrc : ∀ b ∈ source, isNameByte b = true) : ∀ b ∈ fill source tokens, isNameByte b = true := by
  intro b hb
  obtain ⟨token, htoken, hbyte⟩ := mem_flatMap.mp hb
  cases token with
  | source => exact hsrc b hbyte
  | byte other =>
    obtain rfl := mem_singleton.mp hbyte
    exact hplain _ htoken

theorem fill_eq_nil_iff (hsrc : source ≠ []) : fill source tokens = [] ↔ tokens = [] := by
  cases tokens with
  | nil => simp
  | cons token rest =>
    cases token with
    | byte b => simp [Token.filled]
    | source => simp [Token.filled, hsrc]

/-- A name that a source gets from a template that was accepted is valid exactly
if it is not too long. -/
theorem validName_expand_iff {template : Bytes}
    (htemp : validOutputName template = true) (hsrc : validName source = true) :
    validName (expand source template) = true ↔ bytesIn (tokensOf template) +
        placesIn (tokensOf template) * source.length ≤ 128 := by
  obtain ⟨hne, -, hby⟩ := validName_iff.mp hsrc
  rw [validOutputName, expand_eq_fill] at htemp
  obtain ⟨hsome, -, htried⟩ := validName_iff.mp htemp
  have htokens : tokensOf template ≠ [] := by rwa [Ne, fill_eq_nil_iff (by decide)] at hsome
  rw [expand_eq_fill, validName_iff, length_fill]
  constructor
  · exact fun h => h.2.1
  · intro hshort
    refine ⟨by rwa [Ne, fill_eq_nil_iff hne], hshort, ?_⟩
    exact isNameByte_fill (isPlain_of_fill htried) hby

theorem fill_of_notMem {template : Bytes} (h : .source ∉ tokensOf template)
    (source : Bytes) : fill source (tokensOf template) = template := by
  have hsame : fill source (tokensOf template) = fill placeholder (tokensOf template) := by
    refine flatMap_congr fun token htoken => ?_
    cases token with
    | byte b => rfl
    | source => exact (h htoken).elim
  rw [hsame, eq_fill_placeholder]

theorem source_notMem_tokensOf (hsrc : validName source = true) : .source ∉ tokensOf source := by
  intro hplace
  have hbrace : 0x7B ∈ fill placeholder (tokensOf source) :=
    mem_flatMap.mpr ⟨.source, hplace, by decide⟩
  rw [eq_fill_placeholder] at hbrace
  have hname := (validName_iff.mp hsrc).2.2 0x7B hbrace
  revert hname
  decide

/-- A template gives back the source only if it is the place for it, or the name
of the source itself. -/
theorem expand_eq_source_iff {template : Bytes} (hsrc : validName source = true) :
    expand source template = source ↔ template = placeholder ∨ template = source := by
  have hne := (validName_iff.mp hsrc).1
  rw [expand_eq_fill]
  constructor
  · intro h
    by_cases hplace : .source ∈ tokensOf template
    · left
      -- the place alone is as long as the source
      obtain ⟨before, after, htokens⟩ := append_of_mem hplace
      rw [htokens] at h
      have hlen := congrArg List.length h
      rw [fill, flatMap_append, flatMap_cons, length_append, length_append] at hlen
      change (fill source before).length + (source.length + (fill source after).length) = _ at hlen
      have hbefore : fill source before = [] := eq_nil_of_length_eq_zero (by omega)
      have hafter : fill source after = [] := eq_nil_of_length_eq_zero (by omega)
      rw [fill_eq_nil_iff hne] at hbefore hafter
      apply tokensOf_injective
      rw [htokens, hbefore, hafter]
      rfl
    · right
      rwa [fill_of_notMem hplace] at h
  · rintro (rfl | rfl)
    · exact append_nil source
    · exact fill_of_notMem (source_notMem_tokensOf hsrc) _

end Names

/-! ## What the parser has checked -/

/-- A preset of a rule for that source passed the checks on its output. -/
def Checked (source : Bytes) (preset : Preset) : Prop :=
  validOutputName preset.outgoingStreamName = true ∧
    (source = wildcardName → preset.outgoingStreamName ≠ placeholder) ∧
    (source ≠ wildcardName → source ≠ expand source preset.outgoingStreamName)

theorem checkOutput_eq_ok {line : ℕ} {source presetName output : Bytes}
    (h : checkOutput line source presetName output = .ok ()) :
    validOutputName output = true ∧ (source = wildcardName → output ≠ placeholder) ∧
      (source ≠ wildcardName → source ≠ expand source output) := by
  unfold checkOutput at h
  split_ifs at h with hnames hloop
  · cases h
  · cases h
  · rw [Bool.or_eq_true, not_or] at hnames
    rw [not_or, not_and, not_and] at hloop
    exact ⟨by simpa using hnames.2, hloop⟩

theorem outgoingStreamName_parsePreset {line : ℕ} {fields : List Bytes}
    {preset : Preset} (h : parsePreset line fields = .ok preset) :
    preset.outgoingStreamName = fields.getD 2 [] := by
  unfold parsePreset at h
  simp only [bind_eq_ok] at h
  obtain ⟨_, -, _, -, _, -, _, -, _, -, _, -, _, -, _, -, _, -, _, -, _, -, _, -, h⟩ := h
  cases h
  rfl

theorem parseFields_eq_ok {line : ℕ} {fields : List Bytes} {entry : Entry}
    (h : parseFields line fields = .ok entry) : Checked entry.source entry.preset := by
  unfold parseFields at h
  split at h
  · cases h
  · simp only [bind_eq_ok] at h
    obtain ⟨selector, -, _, hchk, preset, hpre, hent⟩ := h
    cases hent
    rw [Checked, outgoingStreamName_parsePreset hpre]
    exact checkOutput_eq_ok hchk

namespace PresetCatalogue

/-- All presets passed the checks on their outputs. -/
def Sound (c : PresetCatalogue) : Prop :=
  ∀ rule ∈ c.rules, ∀ preset ∈ rule.presets, Checked rule.sourceStream preset

theorem mem_of_find_selector {rules : List Rule} {app source : Bytes} {rule : Rule}
    (h : (rules.find? fun rule =>
      rule.application = app ∧ rule.sourceStream = source) = some rule) :
    rule ∈ rules ∧ rule.sourceStream = source := by
  have hselected := find?_some h
  simp only [decide_eq_true_eq] at hselected
  exact ⟨mem_of_find?_eq_some h, hselected.2⟩

theorem Sound.rule {c : PresetCatalogue} (hsnd : c.Sound) {app source : Bytes} {rule : Rule}
    (hrule : (c.rules.find? fun rule =>
      rule.application = app ∧ rule.sourceStream = source).getD ⟨app, source, []⟩ = rule) :
    rule.sourceStream = source ∧ ∀ preset ∈ rule.presets, Checked source preset := by
  cases hfound : c.rules.find? fun rule =>
      rule.application = app ∧ rule.sourceStream = source with
  | none =>
    rw [hfound] at hrule
    rw [← hrule]
    exact ⟨rfl, fun _ hpre => (not_mem_nil hpre).elim⟩
  | some found =>
    rw [hfound] at hrule
    obtain ⟨hmem, hsrc⟩ := mem_of_find_selector hfound
    rw [← hrule]
    refine ⟨hsrc, ?_⟩
    rw [← hsrc]
    exact hsnd found hmem

theorem Sound.add {c c' : PresetCatalogue} {line : ℕ} {entry : Entry}
    (hsnd : c.Sound) (hent : Checked entry.source entry.preset)
    (h : c.add line entry = .ok c') : c'.Sound := by
  unfold PresetCatalogue.add at h
  dsimp only at h
  generalize hrule : (c.rules.find? fun rule =>
    rule.application = entry.application ∧ rule.sourceStream = entry.source).getD
      ⟨entry.application, entry.source, []⟩ = rule at h
  obtain ⟨hsrc, hpresets⟩ := hsnd.rule hrule
  split at h
  · cases h
  · cases h
    have hgrown : ∀ preset ∈ rule.presets ++ [entry.preset], Checked rule.sourceStream preset := by
      intro preset hpre
      rw [hsrc]
      rcases mem_append.mp hpre with hold | hnew
      · exact hpresets preset hold
      · obtain rfl := mem_singleton.mp hnew
        exact hent
    intro other hother
    split at hother
    · rcases mem_append.mp hother with hold | hnew
      · exact hsnd other hold
      · obtain rfl := mem_singleton.mp hnew
        exact hgrown
    · rcases mem_or_eq_of_mem_set hother with hold | hnew
      · exact hsnd other hold
      · rw [hnew]
        exact hgrown

theorem Sound.parseLines {c c' : PresetCatalogue} {line : ℕ} {texts : List Bytes} (hsnd : c.Sound)
    (h : c.parseLines line texts = .ok c') : c'.Sound := by
  induction texts generalizing c line with
  | nil =>
    cases h
    exact hsnd
  | cons text rest ih =>
    rw [PresetCatalogue.parseLines] at h
    split at h
    · exact ih hsnd h
    · simp only [bind_eq_ok] at h
      obtain ⟨entry, hent, grown, hgrown, hrest⟩ := h
      exact ih (hsnd.add (parseFields_eq_ok hent) hgrown) hrest

theorem sound_of_parse {text : Bytes} {c : PresetCatalogue} (h : parse text = .ok c) : c.Sound :=
  Sound.parseLines (fun _ hrule => (not_mem_nil hrule).elim) h

theorem ruleFor_eq_some {c : PresetCatalogue} {app source : Bytes}
    {rule : Rule} (h : c.ruleFor app source = some rule) :
    rule ∈ c.rules ∧ (rule.sourceStream = source ∨ rule.sourceStream = wildcardName) := by
  rcases Option.or_eq_some_iff.mp h with hown | ⟨-, hall⟩
  · obtain ⟨hmem, hsrc⟩ := mem_of_find_selector hown
    exact ⟨hmem, .inl hsrc⟩
  · obtain ⟨hmem, hsrc⟩ := mem_of_find_selector hall
    exact ⟨hmem, .inr hsrc⟩

end PresetCatalogue

/-! ## Names that a source gets -/

/-- The templates of a rule give a source names that can be told apart.  `parse` has
compared the templates themselves: two of them may still read alike when the name of
the source stands in their places. -/
structure Rule.Suits (rule : Rule) (source : Bytes) : Prop where
  apart : (rule.presets.map Preset.outgoingStreamName).Pairwise fun template other =>
    fill source (tokensOf template) ≠ fill source (tokensOf other)
  unused : rule.sourceStream = wildcardName → source ∉ rule.presets.map Preset.outgoingStreamName
  short : ∀ template ∈ rule.presets.map Preset.outgoingStreamName, bytesIn (tokensOf template) +
      placesIn (tokensOf template) * source.length ≤ 128

namespace PresetCatalogue

def outputs (c : PresetCatalogue) (application source : Bytes) : List Bytes :=
  (c.matching application source).map Preset.outgoingStreamName

theorem outputs_eq (c : PresetCatalogue) (app source : Bytes) : c.outputs app source =
      match c.ruleFor app source with
      | none => []
      | some rule => rule.presets.map fun preset =>
        fill source (tokensOf preset.outgoingStreamName) := by
  unfold outputs matching
  cases c.ruleFor app source with
  | none => rfl
  | some rule =>
    simp only [map_map]
    exact map_congr_left fun preset _ => expand_eq_fill _ _

end PresetCatalogue

/-- A template that passed the checks gives back the source only if the rule is
for all sources and the template is the name of this one. -/
theorem Checked.expand_ne_iff {selector source : Bytes} {preset : Preset}
    (hchk : Checked selector preset) (hsel : selector = source ∨ selector = wildcardName)
    (hsrc : validName source = true) : expand source preset.outgoingStreamName ≠ source ↔
      (selector = wildcardName → source ≠ preset.outgoingStreamName) := by
  obtain ⟨-, hwild, hown⟩ := hchk
  have hplain : source ≠ wildcardName := by
    rintro rfl
    revert hsrc
    decide
  rcases hsel with rfl | rfl
  · exact iff_of_true (hown hplain).symm fun h => (hplain h).elim
  · rw [Ne, expand_eq_source_iff hsrc, or_iff_right (hwild rfl)]
    exact ⟨fun hne _ heq => hne heq.symm, fun hne heq => hne rfl heq.symm⟩

namespace PresetCatalogue

/-- For every rule text that is accepted and every source with a valid name, the
output names are distinct, valid and different from the source exactly if the
templates of the rule suit the source. -/
theorem outputs_distinct_iff {text : List UInt8} {c : PresetCatalogue}
    (hparse : parse text = .ok c) {source : List UInt8}
    (hsource : validName source = true) (application : List UInt8) :
    ((c.outputs application source).Nodup ∧ ∀ name ∈ c.outputs application source,
          name ≠ source ∧ validName name = true) ↔
      ∀ rule ∈ c.ruleFor application source, rule.Suits source := by
  have hsound := sound_of_parse hparse
  rw [outputs_eq]
  cases hrule : c.ruleFor application source with
  | none => simp
  | some rule =>
    obtain ⟨hmem, hselector⟩ := ruleFor_eq_some hrule
    have hchecked := hsound rule hmem
    have hapart : (rule.presets.map fun preset =>
          fill source (tokensOf preset.outgoingStreamName)).Nodup ↔
        (rule.presets.map Preset.outgoingStreamName).Pairwise fun template other =>
            fill source (tokensOf template) ≠ fill source (tokensOf other) := by
      rw [List.Nodup, pairwise_map, pairwise_map]
    have hnames : ∀ preset ∈ rule.presets,
        (fill source (tokensOf preset.outgoingStreamName) ≠ source ∧
          validName (fill source (tokensOf preset.outgoingStreamName)) = true) ↔
        ((rule.sourceStream = wildcardName → source ≠ preset.outgoingStreamName) ∧
          bytesIn (tokensOf preset.outgoingStreamName) +
            placesIn (tokensOf preset.outgoingStreamName) * source.length ≤ 128) := by
      intro preset hpreset
      rw [← expand_eq_fill, (hchecked preset hpreset).expand_ne_iff hselector hsource,
        validName_expand_iff (hchecked preset hpreset).1 hsource]
    simp only [Option.mem_def, Option.some.injEq, forall_eq', forall_mem_map]
    rw [forall₂_congr hnames, hapart]
    constructor
    · rintro ⟨hapart, hall⟩
      refine ⟨hapart, fun hwild hused => ?_,
        forall_mem_map.mpr fun preset hpre => (hall preset hpre).2⟩
      obtain ⟨preset, hpreset, hname⟩ := mem_map.mp hused
      exact (hall preset hpreset).1 hwild hname.symm
    · intro hsuits
      refine ⟨hsuits.apart, fun preset hpreset => ⟨fun hwild hname => ?_, ?_⟩⟩
      · exact hsuits.unused hwild (mem_map.mpr ⟨preset, hpreset, hname.symm⟩)
      · exact hsuits.short _ (mem_map_of_mem hpreset)

/-- A rule for all sources, with two templates that have a place. -/
def mobileRules : Bytes := "live/*|hd|\x7bsource\x7d_hd|qsv|copy|||source|||match-source|none||
live/*|sd|\x7bsource\x7d_sd|qsv|copy|||source|||match-source|none||"

def mobilePreset (name template : String) : Preset where
  name := textBytes name
  outgoingStreamName := textBytes template
  backend := .quickSync
  videoCodec := .passthrough
  audioCodec := .disabled

def mobileCatalogue : PresetCatalogue where
  rules :=
    [{ application := "live"
       sourceStream := wildcardName
       presets := [mobilePreset "hd" "\x7bsource\x7d_hd", mobilePreset "sd" "\x7bsource\x7d_sd"] }]

theorem outputs_distinct_mobile : parse mobileRules = .ok mobileCatalogue ∧
      ((mobileCatalogue.outputs "live" "cam").Nodup ∧ ∀ name ∈ mobileCatalogue.outputs "live" "cam",
          name ≠ "cam" ∧ validName name = true) := by
  have hparse : parse mobileRules = .ok mobileCatalogue := by decide +kernel
  refine ⟨hparse, (outputs_distinct_iff hparse (by decide +kernel) _).mpr ?_⟩
  intro rule hrule
  cases Option.some.inj hrule
  exact ⟨by decide +kernel, by decide +kernel, by decide +kernel⟩

/-- A fixed output of a rule for all sources is the name of a source, and a fixed
output spells what another template gives a source. -/
theorem outputs_collide :
    ((parse "live/*|hd|cam|qsv|copy|||source|||match-source|none||\n"
        ).toOption.map (·.outputs "live" "cam") = some [textBytes "cam"]) ∧
      ((parse "live/*|a|\x7bsource\x7d_x|qsv|copy|||source|||match-source|none||
live/*|b|cam_x|qsv|copy|||source|||match-source|none||"
        ).toOption.map (·.outputs "live" "cam") = some [textBytes "cam_x", "cam_x"]) := by
  constructor
  · decide +kernel
  · decide +kernel

end PresetCatalogue

end RtmpCore.Transcode
