import RtmpCore.Core.ByteOrder
import RtmpCore.Core.Error
import RtmpCore.Support.Text

/-!
# Transcoding presets

The rules that say which renditions a source stream gets.  A rule file has one
preset on each line; presets of one selector make one rule.  An output name may
hold a placeholder for the name of the source.  The names are checked when the
rules are read, and the placeholder is filled when a source is matched.
-/

namespace RtmpCore.Transcode

open RtmpCore.Core Text

inductive BackendKind where
  | software | nvenc | quickSync | beamr | mainConcept
deriving DecidableEq

inductive VideoCodec where
  | h263 | h264 | h265 | vp8 | vp9 | passthrough | disabled
deriving DecidableEq

inductive AudioCodec where
  | aac | vorbis | opus | passthrough | disabled
deriving DecidableEq

inductive FitMode where
  | matchSource | fitWidth | fitHeight | crop | stretch | letterbox
deriving DecidableEq

structure Preset where
  name : Bytes := []
  outgoingStreamName : Bytes := []
  description : Bytes := []
  backend : BackendKind := .software
  videoCodec : VideoCodec := .h264
  videoBitrate : ℕ := 2500000
  profile : Bytes := "high"
  keyframeInterval : Option ℕ := none
  width : Option ℕ := none
  height : Option ℕ := none
  fitMode : FitMode := .matchSource
  audioCodec : AudioCodec := .aac
  audioBitrate : ℕ := 128000
  gpuId : Option ℕ := none
deriving DecidableEq

structure Rule where
  application : Bytes
  sourceStream : Bytes
  presets : List Preset
deriving DecidableEq

structure PresetCatalogue where
  rules : List Rule := []
deriving DecidableEq

/-- An invalid configuration: the line and what is wrong with it. -/
structure RuleError where
  line : ℕ
  message : Bytes
deriving DecidableEq

/-- What the parser returns for a line that it refuses. -/
def invalid {α : Type} (line : ℕ) (message : String) : Except RuleError α :=
  .error ⟨line, textBytes message⟩

/-! ## Words -/

variable (b : UInt8) (value : Bytes) (line : ℕ)

def isSpace : Bool := decide (b = 0x20 ∨ 0x09 ≤ b ∧ b ≤ 0x0D)

def isAlnum : Bool := decide (0x30 ≤ b ∧ b ≤ 0x39 ∨ 0x41 ≤ b ∧ b ≤ 0x5A ∨ 0x61 ≤ b ∧ b ≤ 0x7A)

def isNameByte : Bool := isAlnum b || b = 0x2D || b = 0x5F || b = 0x2E

def isDecimal : Bool := decide (0x30 ≤ b ∧ b ≤ 0x39)

/-- The number a text spells, if it fits into so many bits. -/
def number (bits : ℕ) (text : Bytes) : Option ℕ :=
  let value := text.foldl (fun value b => 10 * value + (b.toNat - 0x30)) 0
  if text ≠ [] ∧ text.all isDecimal ∧ value < 2 ^ bits then some value else none

def split (delimiter : UInt8) (text : Bytes) : List Bytes :=
  (text.splitOn delimiter).map (trim isSpace)

def wildcardName : Bytes := "*"

def validName : Bool := value ≠ [] && decide (value.length ≤ 128) && value.all isNameByte

def validSource : Bool := value = wildcardName || validName value

def placeholder : Bytes := "\x7bsource\x7d"

/-- The name with something in the place of every placeholder. -/
def expand (source name : Bytes) : Bytes := replaceAll placeholder source name.length name

/-- An output name is tried with a word in the place of the placeholders. -/
def validOutputName : Bool := validName (expand "source" value)

def backend : Option BackendKind :=
  if value = "default" ∨ value = "software" then some .software
  else if value = "nvenc" then some .nvenc
  else if value = "quicksync" ∨ value = "qsv" then some .quickSync
  else if value = "beamr" then some .beamr
  else if value = "mainconcept" then some .mainConcept
  else none

def videoCodec : Option VideoCodec :=
  if value = "h263" then some .h263
  else if value = "h264" then some .h264
  else if value = "h265" ∨ value = "hevc" then some .h265
  else if value = "vp8" then some .vp8
  else if value = "vp9" then some .vp9
  else if value = "passthrough" ∨ value = "copy" then some .passthrough
  else if value = "disabled" ∨ value = "none" then some .disabled
  else none

def audioCodec : Option AudioCodec :=
  if value = "aac" then some .aac
  else if value = "vorbis" then some .vorbis
  else if value = "opus" then some .opus
  else if value = "passthrough" ∨ value = "copy" then some .passthrough
  else if value = "disabled" ∨ value = "none" then some .disabled
  else none

def fitMode : Option FitMode :=
  if value = "match-source" then some .matchSource
  else if value = "fit-width" then some .fitWidth
  else if value = "fit-height" then some .fitHeight
  else if value = "crop" then some .crop
  else if value = "stretch" then some .stretch
  else if value = "letterbox" then some .letterbox
  else none

/-! ## Lines -/

/-- A word out of a fixed set, or a refusal that quotes it. -/
def known {α : Type} (line : ℕ) (kind : String) (value : Bytes) : Option α → Except RuleError α
  | some meaning => .ok meaning
  | none => .error ⟨line, "unknown " ++ textBytes kind ++ " '" ++ value ++ "'"⟩

/-- The application and the source that a line is for. -/
def parseSelector (field : Bytes) : Except RuleError (Bytes × Bytes) :=
  match cut 0x2F field with
  | none => invalid line "source selector must be application/stream"
  | some (application, source) =>
    if 0x2F ∈ source then invalid line "source selector must be application/stream"
    else if !validName application || !validSource source then
      invalid line "application/stream contains unsupported characters"
    else .ok (application, source)

/-- The output must not be the source itself. -/
def checkOutput (source presetName output : Bytes) : Except RuleError Unit :=
  if !validName presetName || !validOutputName output then
    invalid line "preset/output names contain unsupported characters"
  else if (source = wildcardName ∧ output = placeholder) ∨
      (source ≠ wildcardName ∧ source = expand source output) then
    invalid line "outgoing stream must not equal the source stream"
  else .ok ()

def parseProfile (field : Bytes) : Except RuleError Bytes :=
  let profile := if field = [] then textBytes "high" else field
  if profile ≠ "baseline" ∧ profile ≠ "main" ∧ profile ≠ "high" then
    invalid line "profile must be baseline, main or high"
  else .ok profile

/-- A bit rate within bounds.  A track that is not encoded keeps its default. -/
def parseBitrate (encoded : Bool) (default low high : ℕ)
    (message : String) (field : Bytes) : Except RuleError ℕ :=
  if encoded = false then .ok default
  else
    match number 64 field with
    | none => invalid line message
    | some bitrate => if bitrate < low ∨ high < bitrate then invalid line message else .ok bitrate

/-- A number that may be left to a default word. -/
def parseOptional (word : String) (low high : ℕ) (message : String)
    (field : Bytes) : Except RuleError (Option ℕ) :=
  if field = [] ∨ field = textBytes word then .ok none
  else
    match number 32 field with
    | none => invalid line message
    | some value =>
      if value < low ∨ high < value then invalid line message
      else .ok (some value)

def parseDimension (message : String) (field : Bytes) : Except RuleError (Option ℕ) :=
  if field = [] then .ok none
  else
    match number 32 field with
    | none => invalid line message
    | some value => .ok (some value)

def checkDimensions (fit : FitMode) (width height : Option ℕ) : Except RuleError Unit :=
  if width.any (fun w => w < 16 || 8192 < w) || height.any (fun h => h < 16 || 8192 < h) then
    invalid line "frame dimensions must be 16..8192"
  else if width.any (fun w => w % 2 ≠ 0) || height.any (fun h => h % 2 ≠ 0) then
    invalid line "frame dimensions must be even numbers"
  else if (fit = .stretch ∨ fit = .crop ∨ fit = .letterbox) ∧ (width = none ∨ height = none) then
    invalid line "stretch, crop and letterbox require width and height"
  else if fit = .fitWidth ∧ width = none then invalid line "fit-width requires width"
  else if fit = .fitHeight ∧ height = none then invalid line "fit-height requires height"
  else .ok ()

def VideoCodec.isEncoded (codec : VideoCodec) : Bool := codec ≠ .disabled && codec ≠ .passthrough

def AudioCodec.isEncoded (codec : AudioCodec) : Bool := codec ≠ .disabled && codec ≠ .passthrough

/-- The fields of a preset behind its names. -/
def parsePreset (fields : List Bytes) : Except RuleError Preset := do
  let field := fun place => fields.getD place []
  let backend ← known line "backend" (field 3) (backend (field 3))
  let video ← known line "video codec" (field 4) (videoCodec (field 4))
  let fit ← known line "fit mode" (field 10) (fitMode (field 10))
  let audio ← known line "audio codec" (field 11) (audioCodec (field 11))
  let profile ← parseProfile line (field 6)
  let videoBitrate ← parseBitrate line video.isEncoded 2500000 50000 200000000
    "video bitrate must be 50000..200000000 bps" (field 5)
  let keyframeInterval ← parseOptional line "source" 1 1000
    "keyframe interval must be source or 1..1000 frames" (field 7)
  let width ← parseDimension line "frame width must be an integer" (field 8)
  let height ← parseDimension line "frame height must be an integer" (field 9)
  checkDimensions line fit width height
  let audioBitrate ← parseBitrate line audio.isEncoded 128000 16000 1536000
    "audio bitrate must be 16000..1536000 bps" (field 12)
  let gpuId ← parseOptional line "first" 0 63 "GPU ID must be first or 0..63"
    (field 13)
  return {
    name := field 1
    outgoingStreamName := field 2
    description := field 14
    backend
    videoCodec := video
    videoBitrate
    profile
    keyframeInterval
    width
    height
    fitMode := fit
    audioCodec := audio
    audioBitrate
    gpuId }

/-- One preset with the selector it is for. -/
structure Entry where
  application : Bytes
  source : Bytes
  preset : Preset

def parseFields (fields : List Bytes) : Except RuleError Entry :=
  if fields.length < 14 ∨ 15 < fields.length then
    invalid line "expected 14 pipe-separated fields plus an optional description"
  else do
    let (application, source) ← parseSelector line (fields.getD 0 [])
    checkOutput line source (fields.getD 1 []) (fields.getD 2 [])
    let preset ← parsePreset line fields
    return ⟨application, source, preset⟩

/-- A line without its comment and the blanks around it. -/
def contentOf (text : Bytes) : Bytes := trim isSpace (text.takeWhile (· ≠ 0x23))

namespace PresetCatalogue

variable (c : PresetCatalogue) (application source : Bytes)

def indexOf : Option ℕ :=
  c.rules.findIdx? fun rule => rule.application = application ∧ rule.sourceStream = source

/-- A preset joins the rule of its selector. -/
def add (line : ℕ) (entry : Entry) : Except RuleError PresetCatalogue :=
  let found := c.rules.find? fun rule =>
    rule.application = entry.application ∧ rule.sourceStream = entry.source
  let rule := found.getD ⟨entry.application, entry.source, []⟩
  if rule.presets.any (·.outgoingStreamName = entry.preset.outgoingStreamName) then
    invalid line "duplicate outgoing stream within one source rule"
  else
    let grown := { rule with presets := rule.presets ++ [entry.preset] }
    .ok ⟨match c.indexOf entry.application entry.source with
      | none => c.rules ++ [grown]
      | some place => c.rules.set place grown⟩

def parseLines (c : PresetCatalogue) : ℕ → List Bytes → Except RuleError PresetCatalogue
  | _, [] => .ok c
  | line, text :: rest =>
    if contentOf text = [] then c.parseLines (line + 1) rest
    else do
      let entry ← parseFields line (split 0x7C (contentOf text))
      let c ← c.add line entry
      c.parseLines (line + 1) rest

def parse (text : Bytes) : Except RuleError PresetCatalogue := parseLines {} 1 (lines 0x0A text)

/-- The rule for a source: one of its own, or else the wildcard. -/
def ruleFor : Option Rule :=
  (c.rules.find? fun rule =>
      rule.application = application ∧ rule.sourceStream = source).or
    (c.rules.find? fun rule => rule.application = application ∧ rule.sourceStream = wildcardName)

/-- The presets of a source, with the placeholders filled. -/
def matching : List Preset :=
  match c.ruleFor application source with
  | none => []
  | some rule =>
    rule.presets.map fun preset =>
      { preset with outgoingStreamName := expand source preset.outgoingStreamName }

end PresetCatalogue

end RtmpCore.Transcode
