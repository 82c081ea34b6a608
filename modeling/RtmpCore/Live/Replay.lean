import RtmpCore.Live.Fanout
import RtmpCore.Media.Handoff

/-!
# What a late joiner is sent

A new subscriber gets the decoder headers of its stream and then the cached group
of pictures, which is all that came since the last keyframe.  The headers and the
keyframes are told by predicates that were written for AVC: the configuration of
an HEVC stream is a keyframe to them.
-/

namespace RtmpCore.Live

open Media Run List

/-! ## The cache -/

abbrev MediaInput := MediaKind × SharedMediaFrame

/-- What it does to the caches of its stream. -/
def StreamState.cache (state : StreamState) (input : MediaInput) : StreamState :=
  (LiveFanout.cacheFrame state input.1 input.2).1

def isKeyframe (input : MediaInput) : Bool := input.1 = .video && classifyIsVideoKeyframe input.2

/-- Audio or video that is not a decoder header. -/
def isCoded : MediaInput → Bool
  | (.video, frame) => !classifyIsVideoSequenceHeader frame
  | (.audio, frame) => !classifyIsAudioSequenceHeader frame
  | (.metadata, _) => false

variable {state : StreamState} {cache : GopCache} {frame : SharedMediaFrame}
  {input : MediaInput} {inputs : List MediaInput}

theorem isCoded_of_isKeyframe (h : classifyIsVideoKeyframe frame = true) :
    classifyIsVideoSequenceHeader frame = false := by
  unfold classifyIsVideoKeyframe at h
  unfold classifyIsVideoSequenceHeader
  cases hinfo : classifyVideoTag frame.payload with
  | none => rfl
  | some info =>
    rw [hinfo] at h
    simp only [Bool.and_eq_true, Bool.or_eq_true, decide_eq_true_eq] at h
    rcases h.2 with hcodec | hnalu
    · simp [hcodec]
    · simp [hnalu]

theorem gopCache_cache (state : StreamState) (input : MediaInput) : (state.cache input).gopCache =
      if isKeyframe input then state.gopCache.beginNewGop input.2
      else if isCoded input then state.gopCache.push input.2 else state.gopCache := by
  obtain ⟨kind, frame⟩ := input
  cases kind with
  | video =>
    cases hkey : classifyIsVideoKeyframe frame with
    | true =>
      simp [StreamState.cache, LiveFanout.cacheFrame, isKeyframe, hkey, isCoded_of_isKeyframe hkey]
    | false =>
      cases hheader : classifyIsVideoSequenceHeader frame <;>
      simp [StreamState.cache, LiveFanout.cacheFrame, isKeyframe, isCoded, hkey, hheader]
  | audio =>
    cases hheader : classifyIsAudioSequenceHeader frame <;>
    simp [StreamState.cache, LiveFanout.cacheFrame, isKeyframe, isCoded, hheader]
  | metadata => rfl

namespace GopCache

/-- The frames are those since the last keyframe. -/
def SinceKeyframe (inputs : List MediaInput) (frames : List SharedMediaFrame) : Prop :=
  ∃ before keyframe rest, inputs = before ++ (.video, keyframe) :: rest ∧
    classifyIsVideoKeyframe keyframe = true ∧ (∀ input ∈ rest, isKeyframe input = false) ∧
    frames = keyframe :: (rest.filter isCoded).map Prod.snd

/-- No limit is exceeded. -/
structure Within (cache : GopCache) : Prop where
  bytes : cache.limits.maxBytes ≠ 0 → cache.totalBytes ≤ cache.limits.maxBytes
  packets : cache.limits.maxPackets ≠ 0 → cache.frames.length ≤ cache.limits.maxPackets
  duration : cache.limits.maxDuration ≠ 0 → ∀ first ∈ cache.frames.head?,
    ∀ last ∈ cache.frames.getLast?, first.timestamp ≤ last.timestamp →
      last.timestamp.toNat - first.timestamp.toNat ≤ cache.limits.maxDuration

structure Exact (limits : GopLimits) (inputs : List MediaInput) (cache : GopCache) : Prop where
  limits : cache.limits = limits
  start : cache.startTimestamp = cache.frames.head?.map (·.timestamp)
  frames : cache.frames = [] ∨ SinceKeyframe inputs cache.frames
  bytes : cache.totalBytes = (cache.frames.map (·.payload.length)).sum
  within : 1 < cache.frames.length → cache.Within

theorem within_of_not_over (hstart : cache.startTimestamp = cache.frames.head?.map (·.timestamp))
    (h : ¬((cache.limits.maxBytes ≠ 0 && cache.limits.maxBytes < cache.totalBytes) ||
      (cache.limits.maxPackets ≠ 0 && cache.limits.maxPackets < cache.frames.length) ||
      cache.overDuration) = true) : cache.Within := by
  simp only [Bool.or_eq_true, Bool.and_eq_true, decide_eq_true_eq, not_or, not_and, not_lt] at h
  refine ⟨h.1.1, h.1.2, ?_⟩
  intro hmax first hfirst last hlast hle
  have hover := h.2
  simp only [overDuration, hstart, Option.mem_def.mp hfirst, Option.mem_def.mp hlast] at hover
  simpa [hmax, hle] using hover

/-- What follows the keyframe goes on, and what is no header is cached. -/
theorem SinceKeyframe.concat {frames : List SharedMediaFrame} (h : SinceKeyframe inputs frames)
    (hkey : isKeyframe input = false) : SinceKeyframe (inputs ++ [input])
      (frames ++ if isCoded input then [input.2] else []) := by
  obtain ⟨before, keyframe, rest, rfl, hkeyframe, hrest, rfl⟩ := h
  refine ⟨before, keyframe, rest ++ [input], by simp, hkeyframe, ?_, ?_⟩
  · simp only [mem_append, mem_singleton]
    rintro other (hother | rfl)
    · exact hrest other hother
    · exact hkey
  · cases hcoded : isCoded input <;> simp [hcoded]

variable {limits : GopLimits}

theorem Exact.push (h : cache.Exact limits inputs) (hkey : isKeyframe input = false)
    (hcoded : isCoded input = true) : (cache.push input.2).Exact limits (inputs ++ [input]) := by
  unfold GopCache.push
  split
  next hempty => exact { h with frames := .inl hempty }
  next hframes =>
    have hsince := (h.frames.resolve_left hframes).concat hkey
    rw [hcoded, if_pos rfl] at hsince
    have hstart : (cache.pushInternal input.2).startTimestamp =
        (cache.pushInternal input.2).frames.head?.map (·.timestamp) := by
      obtain ⟨first, rest, hcons⟩ := exists_cons_of_ne_nil hframes
      simp [pushInternal, h.start, hcons]
    unfold enforceLimits
    split
    · exact ⟨h.limits, rfl, .inl rfl, rfl, nofun⟩
    next hover =>
      exact ⟨h.limits, hstart, .inr hsince, by simp [pushInternal, h.bytes],
        fun _ => within_of_not_over hstart hover⟩

theorem Exact.concat (h : state.gopCache.Exact limits inputs) (input : MediaInput) :
    (state.cache input).gopCache.Exact limits (inputs ++ [input]) := by
  rw [gopCache_cache]
  split_ifs with hkey hcoded
  · simp only [isKeyframe, Bool.and_eq_true, decide_eq_true_eq] at hkey
    refine ⟨h.limits, rfl, .inr ⟨inputs, input.2, [], ?_, hkey.2, nofun, rfl⟩, ?_, ?_⟩
    · rw [← hkey.1]
    · simp [beginNewGop, pushInternal, clear]
    · exact fun hlength => absurd hlength (lt_irrefl 1)
  · exact h.push (Bool.eq_false_iff.mpr hkey) hcoded
  · refine { h with frames := h.frames.imp_right fun hsince => ?_ }
    have hnext := hsince.concat (Bool.eq_false_iff.mpr hkey)
    rwa [if_neg hcoded, append_nil] at hnext

end GopCache

theorem frames_run_of_empty (h : state.gopCache.frames = [])
    (hkey : ∀ input ∈ inputs, isKeyframe input = false) :
    (run StreamState.cache state inputs).gopCache.frames = [] := by
  induction inputs generalizing state with
  | nil => exact h
  | cons input rest ih =>
    obtain ⟨hhead, hrest⟩ := forall_mem_cons.mp hkey
    apply ih _ hrest
    rw [gopCache_cache, hhead]
    simp only [Bool.false_eq_true, if_false]
    split
    · rw [GopCache.push, if_pos h, h]
    · exact h

theorem exact_run (limits : GopLimits) (inputs : List MediaInput) :
    (run StreamState.cache { gopCache := { limits } } inputs).gopCache.Exact limits inputs := by
  induction inputs using List.reverseRecOn with
  | nil => exact ⟨rfl, rfl, .inl rfl, rfl, nofun⟩
  | append_singleton inputs input ih =>
    rw [run, foldl_append]
    exact ih.concat input

/-- The group of pictures is empty, or all that came since the last keyframe within
the limits, and once it is empty it stays so until the next keyframe. -/
theorem run_gopCache (limits : GopLimits) (inputs more : List MediaInput) :
    let state := run StreamState.cache { gopCache := { limits } } inputs
    let cache := state.gopCache
    (cache.frames = [] ∨ GopCache.SinceKeyframe inputs cache.frames) ∧
      cache.totalBytes = (cache.frames.map (·.payload.length)).sum ∧ cache.limits = limits ∧
      (1 < cache.frames.length → cache.Within) ∧
      (cache.frames = [] → (∀ input ∈ more, isKeyframe input = false) →
        (run StreamState.cache state more).gopCache.frames = []) := by
  intro state cache
  have h : cache.Exact limits inputs := exact_run limits inputs
  exact ⟨h.frames, h.bytes, h.limits, h.within, frames_run_of_empty⟩

/-! ## The replay -/

/-- A decoder configuration of one of the two codecs, in either packaging. -/
def isConfiguration (frame : SharedMediaFrame) : Bool :=
  match classifyVideoTag frame.payload with
  | none => false
  | some info => (info.codec = .avc || info.codec = .hevc) &&
      (info.avcPacketType = some .sequenceHeader || info.exPacketType = some .sequenceStart)

def carriesPictures (frame : SharedMediaFrame) : Bool :=
  HandoffMessage.keyPicture { payload := frame.payload }

/-- The last configuration comes before all coded frames, and the first of those is
a keyframe with pictures. -/
def Decodable (frames : List SharedMediaFrame) (replay : List MediaInput) : Prop :=
  (∀ config ∈ (frames.filter isConfiguration).getLast?,
    (.video, config) ∈ replay.takeWhile fun input => isConfiguration input.2) ∧
  ∃ key ∈ (replay.dropWhile fun input => isConfiguration input.2).head?,
    carriesPictures key.2 = true

/-- The tag is one of AVC or HEVC. -/
def Recognised (frame : SharedMediaFrame) : Prop :=
  ∃ info ∈ classifyVideoTag frame.payload, info.codec = .avc ∨ info.codec = .hevc

/-- A tag of HEVC is no configuration, and a keyframe only with pictures. -/
def Plain (frame : SharedMediaFrame) : Prop :=
  ∀ info ∈ classifyVideoTag frame.payload, info.codec = .hevc → isConfiguration frame = false ∧
      (classifyIsVideoKeyframe frame = true → carriesPictures frame = true)

theorem classic_of_avc {payload : Bytes} {info : VideoTagInfo}
    (h : classifyVideoTag payload = some info) (havc : info.codec = .avc) :
    info.enhanced = false ∧ info.exPacketType = none := by
  unfold classifyVideoTag at h
  dsimp only at h
  split_ifs at h <;> simp only [Option.some.injEq] at h <;> subst h <;> simp_all

theorem told_of_plain (hrec : Recognised frame) (hplain : Plain frame) :
    isConfiguration frame = classifyIsVideoSequenceHeader frame ∧
      (classifyIsVideoKeyframe frame = true → carriesPictures frame = true) := by
  obtain ⟨info, hinfo, havc | hhevc⟩ := hrec
  · obtain ⟨hclassic, hex⟩ := classic_of_avc hinfo havc
    simp [isConfiguration, classifyIsVideoSequenceHeader, classifyIsVideoKeyframe, carriesPictures,
      HandoffMessage.keyPicture, isKeyframeType, Option.mem_def.mp hinfo, havc, hclassic, hex]
  · obtain ⟨hconfig, hkey⟩ := hplain info hinfo hhevc
    refine ⟨?_, hkey⟩
    rw [hconfig]
    simp [classifyIsVideoSequenceHeader, Option.mem_def.mp hinfo, hhevc]

variable {frames : List SharedMediaFrame}

theorem headers_run (limits : GopLimits) (hrec : ∀ frame ∈ frames, Recognised frame)
    (hplain : ∀ frame ∈ frames, Plain frame) :
    let state := run StreamState.cache { gopCache := { limits } } (frames.map (.video, ·))
    state.metadata = none ∧ state.audioSequenceHeader = none ∧
      state.videoSequenceHeader = (frames.filter isConfiguration).getLast? := by
  induction frames using List.reverseRecOn with
  | nil => exact ⟨rfl, rfl, rfl⟩
  | append_singleton frames frame ih =>
    simp only [mem_append, mem_singleton, or_imp, forall_and, forall_eq] at hrec hplain
    obtain ⟨hmeta, haudio, hvideo⟩ := ih hrec.1 hplain.1
    have htold := (told_of_plain hrec.2 hplain.2).1
    simp only [run, map_append, foldl_append, map_cons, map_nil, foldl_cons, foldl_nil,
      StreamState.cache, LiveFanout.cacheFrame, filter_append] at hmeta haudio hvideo ⊢
    cases hheader : classifyIsVideoSequenceHeader frame with
    | true => simp_all
    | false => split_ifs <;> simp_all

/-- After a run of plain video frames, a viewer that joins within a group of pictures
gets a replay that can be decoded. -/
theorem run_replay (fanout : LiveFanout) (streamId : StreamId) (limits : GopLimits)
    (frames : List SharedMediaFrame)
    (hrec : ∀ frame ∈ frames, Recognised frame) (hplain : ∀ frame ∈ frames, Plain frame) :
    let state := run StreamState.cache { gopCache := { limits } } (frames.map (.video, ·))
    state.gopCache.frames ≠ [] →
      Decodable frames ((fanout.setState streamId state).startup streamId) := by
  intro state hgop
  obtain ⟨before, keyframe, rest, hinputs, hkey, -, hframes⟩ :=
    (exact_run limits (frames.map (.video, ·))).frames.resolve_left hgop
  obtain ⟨hmeta, haudio, hvideo⟩ := headers_run limits hrec hplain
  have hmem : keyframe ∈ frames := by
    have hmap : (MediaKind.video, keyframe) ∈ frames.map (.video, ·) := by simp [hinputs]
    simpa using hmap
  obtain ⟨hconfig, hpictures⟩ := told_of_plain (hrec _ hmem) (hplain _ hmem)
  rw [isCoded_of_isKeyframe hkey] at hconfig
  have hstate : (fanout.setState streamId state).stateFor streamId = state := by
    simp [LiveFanout.stateFor, LiveFanout.setState]
  simp only [Decodable, LiveFanout.startup, hstate, hmeta, haudio, hvideo, hframes, state]
  cases hlast : (frames.filter isConfiguration).getLast? with
  | none => exact ⟨nofun, by simpa [hconfig] using hpictures hkey⟩
  | some config =>
    have hfilter := mem_filter.mp (mem_of_getLast? hlast)
    have htold := (told_of_plain (hrec _ hfilter.1) (hplain _ hfilter.1)).1
    constructor
    · simp [← htold, hfilter.2]
    · simpa [← htold, hfilter.2, hconfig] using hpictures hkey

def videoFrame (payload : Bytes) : SharedMediaFrame where
  payload

theorem run_replay_avc :
    let frames := [videoFrame [0x17, 0], videoFrame [0x17, 1], videoFrame [0x27, 1]]
    let state := run StreamState.cache {} (frames.map (.video, ·))
    state.gopCache.frames ≠ [] ∧
      Decodable frames ((LiveFanout.setState {} ⟨1⟩ state).startup ⟨1⟩) :=
  ⟨by decide, run_replay {} ⟨1⟩ {} _ (by unfold Recognised; decide +kernel)
    (by unfold Plain; decide +kernel) (by decide)⟩

/-- The configuration of HEVC begins a group of pictures, which the next keyframe
replaces. -/
theorem run_replay_hevc :
    let frames := [videoFrame [0x1C, 0], videoFrame [0x1C, 1]]
    let state := run StreamState.cache {} (frames.map (.video, ·))
    state.gopCache.frames ≠ [] ∧
      ¬Decodable frames ((LiveFanout.setState {} ⟨1⟩ state).startup ⟨1⟩) := by
  unfold Decodable
  decide +kernel

end RtmpCore.Live
