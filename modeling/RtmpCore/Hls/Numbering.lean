import RtmpCore.Hls.SegmentStore

/-!
# The numbers of the segments

What a player reads in a media playlist.  It numbers the segments by the lines they
stand on, starting with the numbers that the playlist declares: neither number of a
segment is written beside it.

The trick-play playlist declares the number of the first segment of the window and
leaves segments out, so that the numbers behind one that is left out differ from
those of the media playlist.
-/

namespace RtmpCore.Hls

open RtmpCore.Core Text Http List

/-! ## Reading a playlist -/

/-- The numbers of the next segment, and the segments so far: URI, media sequence
number and discontinuity sequence number. -/
structure PlaylistReading where
  mediaSequence : ℕ := 0
  discontinuitySequence : ℕ := 0
  segments : List (Bytes × ℕ × ℕ) := []

/-- The line is neither blank nor a tag or comment. -/
def isUri : Bytes → Bool
  | [] => false
  | b :: _ => b ≠ 0x23

def readLine (r : PlaylistReading) (line : Bytes) : PlaylistReading :=
  match isPrefixOf? "#EXT-X-MEDIA-SEQUENCE:" line,
      isPrefixOf? "#EXT-X-DISCONTINUITY-SEQUENCE:" line with
  | some value, _ => { r with mediaSequence := decimalValue value }
  | none, some value => { r with discontinuitySequence := decimalValue value }
  | none, none =>
    if line = "#EXT-X-DISCONTINUITY" then
      { r with discontinuitySequence := r.discontinuitySequence + 1 }
    else if isUri line then
      { r with
        mediaSequence := r.mediaSequence + 1
        segments := r.segments ++ [(line, r.mediaSequence, r.discontinuitySequence)] }
    else r

def readPlaylist (text : Bytes) : PlaylistReading := (lines newline text).foldl readLine {}

/-! ## The lines of a playlist -/

/-- A player passes over the line. -/
def Ignored (line : Bytes) : Prop := ∀ r, readLine r line = r

theorem foldl_ignored {ls : List Bytes} (h : ∀ line ∈ ls, Ignored line) (r : PlaylistReading) :
    ls.foldl readLine r = r := by
  induction ls with
  | nil => rfl
  | cons line ls ih =>
    obtain ⟨hline, hls⟩ := forall_mem_cons.mp h
    rw [foldl_cons, hline, ih hls]

theorem foldl_ite_ignored (c : Prop) [Decidable c] {ls : List Bytes}
    (h : ∀ line ∈ ls, Ignored line) (r : PlaylistReading) :
    (if c then ls else []).foldl readLine r = r := by
  split
  · exact foldl_ignored h r
  · rfl

theorem ignored_singleton {line : Bytes} (h : Ignored line) : ∀ line' ∈ [line], Ignored line' :=
  forall_mem_singleton.mpr h

theorem decimalValue_decimalText (n : ℕ) : decimalValue (decimalText n) = n := by
  have hdigit : ∀ c ∈ Nat.toDigits 10 n, (UInt8.ofNat c.toNat).toNat = c.toNat := by
    intro c hc
    have hten := Nat.isDigit_of_mem_toDigits (by decide) (by decide) hc
    have hsmall : c.toNat < 256 := (Char.isDigit_iff_toNat.mp hten).2.trans_lt (by decide)
    rw [UInt8.toNat_ofNat', Nat.mod_eq_of_lt hsmall]
  rw [decimalValue, decimalText, foldl_map]
  refine Eq.trans ?_ (Nat.ofDigitChars_toDigits (b := 10) (by decide) (by decide))
  exact foldl_ext _ _ _ fun value c hc => by rw [hdigit c hc]; rfl

theorem readLine_uri {line : Bytes} (h : isUri line) (r : PlaylistReading) :
    readLine r line = { r with
      mediaSequence := r.mediaSequence + 1
      segments := r.segments ++ [(line, r.mediaSequence, r.discontinuitySequence)] } := by
  cases line with
  | nil => cases h
  | cons b rest =>
    have hne : b ≠ 0x23 := of_decide_eq_true h
    have htag : ∀ tag : Bytes, tag.head? = some 0x23 → isPrefixOf? tag (b :: rest) = none ∧
        b :: rest ≠ tag := by
      rintro (_ | ⟨first, tag⟩) hhash
      · cases hhash
      · cases hhash
        simp [isPrefixOf?, hne, Ne.symm hne]
    rw [readLine, (htag _ rfl).1, (htag _ rfl).1]
    dsimp only
    rw [if_neg (htag _ rfl).2, if_pos h]

theorem ignored_parts (uriPrefix : Bytes) (parts : List Part) :
    ∀ line ∈ parts.map (partTag uriPrefix), Ignored line := by
  intro line hline
  obtain ⟨part, -, rfl⟩ := mem_map.mp hline
  exact fun _ => rfl

theorem ignored_keyStep (state : KeyState) (key : Option EncryptionKeyInfo) :
    ∀ line ∈ (keyStep state key).2, Ignored line := by
  have htag : Ignored (keyTag key) := by
    unfold keyTag
    split
    · split <;> exact fun _ => rfl
    · exact fun _ => rfl
  unfold keyStep
  split_ifs <;> simp [htag]

variable (options : MediaPlaylistOptions)

/-- The header declares the number of the first segment and the discontinuities in
front of it. -/
theorem foldl_headerLines (window : List Segment) : (headerLines window options).foldl readLine {} =
      { mediaSequence := ((window.head?.map Segment.sequence).getD 0).toNat
        discontinuitySequence := options.discontinuitySequence } := by
  have hmedia : ∀ r n, readLine r (textBytes "#EXT-X-MEDIA-SEQUENCE:" ++ decimalText n) =
      { r with mediaSequence := n } := fun r n =>
    congrArg (PlaylistReading.mk · _ _) (decimalValue_decimalText n)
  have hdisc : ∀ r n, readLine r (textBytes "#EXT-X-DISCONTINUITY-SEQUENCE:" ++ decimalText n) =
      { r with discontinuitySequence := n } := fun r n =>
    congrArg (PlaylistReading.mk _ · _) (decimalValue_decimalText n)
  dsimp only [headerLines]
  rw [foldl_append, foldl_append, foldl_append, foldl_append,
    foldl_ite_ignored _ (ignored_singleton fun _ => rfl),
    foldl_ite_ignored _ (ignored_singleton fun _ => rfl),
    foldl_ite_ignored _ (ignored_singleton fun _ => rfl)]
  have hfirst : ∀ version target n, [textBytes "#EXTM3U", textBytes "#EXT-X-VERSION:" ++ version,
      textBytes "#EXT-X-TARGETDURATION:" ++ target,
      textBytes "#EXT-X-MEDIA-SEQUENCE:" ++ decimalText n].foldl readLine {} =
        { mediaSequence := n } := fun _ _ n => hmedia {} n
  rw [hfirst]
  split_ifs with hpast
  · exact hdisc _ _
  · rw [Nat.eq_zero_of_not_pos hpast]
    rfl

theorem foldl_trailerLines (r : PlaylistReading) : (trailerLines options).foldl readLine r = r := by
  unfold trailerLines
  rw [foldl_append, foldl_ite_ignored _ (ignored_singleton fun _ => rfl)]
  refine foldl_ite_ignored _ (forall_mem_append.mpr ⟨ignored_parts _ _, ?_⟩) r
  split_ifs
  · exact fun _ hline => absurd hline not_mem_nil
  · exact ignored_singleton fun _ => rfl

/-- A playlist has a line for the segment. -/
def isListed (segment : Segment) : Bool := !(options.iframesOnly && segment.iframePrefixBytes = 0)

/-- The segments that a player finds, if these are the numbers of the next one. -/
def listing (mediaSequence discontinuitySequence : ℕ) : List Segment → List (Bytes × ℕ × ℕ)
  | [] => []
  | segment :: rest =>
    if isListed options segment then
      let here := discontinuitySequence + if segment.discontinuity then 1 else 0
      (options.segmentUriPrefix ++ segment.name, mediaSequence, here) ::
        listing (mediaSequence + 1) here rest
    else listing mediaSequence discontinuitySequence rest

variable {options}

theorem foldl_segmentLines {segment : Segment}
    (h : isUri (options.segmentUriPrefix ++ segment.name)) (withParts : Bool) (r : PlaylistReading) :
    (segmentLines options withParts segment).foldl readLine r =
      let here := r.discontinuitySequence + if segment.discontinuity then 1 else 0
      { mediaSequence := r.mediaSequence + 1
        discontinuitySequence := here
        segments := r.segments ++
          [(options.segmentUriPrefix ++ segment.name, r.mediaSequence, here)] } := by
  unfold segmentLines
  rw [foldl_append, foldl_cons, foldl_nil, readLine_uri h, foldl_append, foldl_append, foldl_append,
    foldl_ite_ignored _ (ignored_singleton fun _ => rfl),
    foldl_ignored (ignored_singleton fun _ => rfl), foldl_ite_ignored _ (ignored_parts _ _)]
  cases segment.discontinuity
  · rfl
  · rfl

theorem foldl_allSegmentLines {firstPart index : ℕ} {key : KeyState} {window : List Segment}
    (h : ∀ segment ∈ window, isUri (options.segmentUriPrefix ++ segment.name))
    (r : PlaylistReading) :
    ((allSegmentLines options firstPart index key window).foldl readLine r).segments =
      r.segments ++ listing options r.mediaSequence r.discontinuitySequence window := by
  induction window generalizing index key r with
  | nil => exact (append_nil _).symm
  | cons segment rest ih =>
    obtain ⟨huri, hrest⟩ := forall_mem_cons.mp h
    rw [allSegmentLines, listing]
    by_cases hskip : options.iframesOnly = true ∧ segment.iframePrefixBytes = 0
    · rw [if_pos hskip, if_neg (by simp [isListed, hskip]), ih hrest]
    · have hlisted : isListed options segment := by simpa [isListed, imp_iff_not_or] using hskip
      rw [if_neg hskip, if_pos hlisted, foldl_append, foldl_append,
        foldl_ignored (ignored_keyStep _ _), foldl_segmentLines huri, ih hrest, append_assoc]
      rfl

/-! ## The numbers of a segment -/

/-- The lines of the playlist can be told apart, and those with the name of a segment
are URIs. -/
def Readable (options : MediaPlaylistOptions) (window : List Segment) : Prop :=
  (∀ line ∈ mediaPlaylistLines window options, newline ∉ line) ∧
    ∀ segment ∈ window, isUri (options.segmentUriPrefix ++ segment.name)
deriving Decidable

/-- The place of a segment of the window among those the playlist lists. -/
def placeOf (options : MediaPlaylistOptions) (window : List Segment) (i : ℕ) : ℕ :=
  ((window.take i).filter (isListed options)).length

/-- The media and the discontinuity sequence number of a segment of the window. -/
def numbersOf (options : MediaPlaylistOptions) (window : List Segment) (i : ℕ) : ℕ × ℕ :=
  (((window.head?.map Segment.sequence).getD 0).toNat + placeOf options window i,
    options.discontinuitySequence +
      ((window.take (i + 1)).filter (isListed options)).countP (·.discontinuity))

theorem listing_getElem? {window : List Segment} {i : ℕ} {segment : Segment}
    (hsegment : window[i]? = some segment) (hlisted : isListed options segment) (media disc : ℕ) :
    (listing options media disc window)[placeOf options window i]? =
      some (options.segmentUriPrefix ++ segment.name, media + placeOf options window i,
        disc + ((window.take (i + 1)).filter (isListed options)).countP (·.discontinuity)) := by
  induction window generalizing i media disc with
  | nil => cases hsegment
  | cons first rest ih =>
    rw [listing]
    cases i with
    | zero =>
      obtain rfl : first = segment := Option.some.inj hsegment
      simp [placeOf, hlisted, countP_cons]
    | succ i =>
      by_cases hfirst : isListed options first
      · have hrest := ih hsegment (media + 1) (disc + if first.discontinuity then 1 else 0)
        simp only [placeOf] at hrest
        simp [placeOf, hfirst, hrest, countP_cons]
        omega
      · simpa [placeOf, hfirst] using ih hsegment media disc

/-- A player gives a listed segment its numbers. -/
theorem readPlaylist_segments {window : List Segment} (h : Readable options window)
    {i : ℕ} {segment : Segment} (hsegment : window[i]? = some segment)
    (hlisted : isListed options segment) :
    (readPlaylist (buildMediaPlaylist window options)).segments[placeOf options window i]? =
      some (options.segmentUriPrefix ++ segment.name, numbersOf options window i) := by
  rw [readPlaylist, buildMediaPlaylist, lines_unlines h.1, mediaPlaylistLines, foldl_append,
    foldl_append, foldl_headerLines, foldl_trailerLines, foldl_allSegmentLines h.2, nil_append]
  exact listing_getElem? hsegment hlisted _ _

namespace SegmentStore

variable (s : SegmentStore) (uriPrefix : Bytes)

/-- The discontinuities that have left the window. -/
def pastDiscontinuities : ℕ :=
  s.discontinuitySequence +
    (s.segments.take (s.segments.length - s.config.liveWindowSegments)).countP (·.discontinuity)

theorem isListed_playlist : isListed (s.playlistOptions uriPrefix) = fun _ => true := by
  unfold playlistOptions isListed
  split <;> rfl

theorem isListed_iframes : isListed (s.iframeOptions uriPrefix) = fun segment =>
    decide (segment.iframePrefixBytes ≠ 0) := by
  funext segment
  simp [isListed, iframeOptions]

theorem numbersOf_playlist (i : ℕ) : numbersOf (s.playlistOptions uriPrefix) s.window i =
    (((s.window.head?.map Segment.sequence).getD 0).toNat + (s.window.take i).length,
      s.pastDiscontinuities + (s.window.take (i + 1)).countP (·.discontinuity)) := by
  have hpast : (s.playlistOptions uriPrefix).discontinuitySequence = s.pastDiscontinuities := by
    unfold playlistOptions
    split <;> rfl
  rw [numbersOf, placeOf, isListed_playlist, hpast, filter_true, filter_true]

theorem numbersOf_iframes_iff {i : ℕ} {segment : Segment} (hsegment : s.window[i]? = some segment)
    (hshown : segment.iframePrefixBytes ≠ 0) :
    numbersOf (s.iframeOptions uriPrefix) s.window i =
        numbersOf (s.playlistOptions uriPrefix) s.window i ↔
      (∀ earlier ∈ s.window.take i, earlier.iframePrefixBytes ≠ 0) ∧ s.pastDiscontinuities = 0 := by
  rw [numbersOf_playlist, numbersOf, placeOf, isListed_iframes, Prod.mk.injEq,
    Nat.add_left_cancel_iff, length_filter_eq_length_iff]
  simp only [decide_eq_true_eq]
  refine and_congr_right fun hearlier => ?_
  have hnone : (s.window.take (i + 1)).filter
      (fun segment => decide (segment.iframePrefixBytes ≠ 0)) = s.window.take (i + 1) := by
    rw [filter_eq_self, take_add_one, hsegment]
    simpa [or_imp, forall_and, hshown] using hearlier
  rw [hnone, Nat.add_right_cancel_iff]
  exact eq_comm

/-- In the state in which `playlist` renders, a player that reads both playlists finds
the segments of the trick-play playlist under the numbers of the media playlist exactly
if none of them comes behind one that is skipped, and no discontinuity has left the
window. -/
theorem readPlaylist_iframes_iff (now : ℕ) :
    let text := (s.playlist now uriPrefix).2
    let s := (s.playlist now uriPrefix).1
    let iframes := s.iframeOptions uriPrefix
    Readable (s.playlistOptions uriPrefix) s.window → Readable iframes s.window →
      ((∀ i segment, s.window[i]? = some segment → isListed iframes segment →
          (readPlaylist (s.iframePlaylist uriPrefix)).segments[placeOf iframes s.window i]? =
            (readPlaylist text).segments[i]?) ↔
        ∀ i segment, s.window[i]? = some segment → segment.iframePrefixBytes ≠ 0 →
          (∀ earlier ∈ s.window.take i, earlier.iframePrefixBytes ≠ 0) ∧
            s.pastDiscontinuities = 0) := by
  dsimp only [playlist]
  generalize s.appendFallbackIfDue now = s
  intro hmedia hiframes
  refine forall_congr' fun i => forall_congr' fun segment => forall_congr' fun hsegment => ?_
  have hlisted : isListed (s.iframeOptions uriPrefix) segment ↔ segment.iframePrefixBytes ≠ 0 := by
    rw [isListed_iframes, decide_eq_true_eq]
  rw [hlisted]
  refine forall_congr' fun hshown => ?_
  have hplace : placeOf (s.playlistOptions uriPrefix) s.window i = i := by
    have hi : i < s.window.length := by
      by_contra hnot
      rw [getElem?_eq_none (not_lt.mp hnot)] at hsegment
      cases hsegment
    rw [placeOf, isListed_playlist, filter_true, length_take_of_le hi.le]
  have hread := readPlaylist_segments hmedia hsegment (by rw [isListed_playlist])
  rw [hplace] at hread
  rw [iframePlaylist, readPlaylist_segments hiframes hsegment (hlisted.mpr hshown), hread,
    Option.some_inj, Prod.mk.injEq, s.numbersOf_iframes_iff uriPrefix hsegment hshown]
  refine and_iff_right (congrArg (· ++ segment.name) ?_)
  unfold playlistOptions
  split <;> rfl

/-- Two segments, of which the second has an I-frame of 188 bytes. -/
def twoSegments (iframePrefixBytes : ℕ) : SegmentStore :=
  (({} : SegmentStore).addSegment 0 { name := "segment-0.ts", iframePrefixBytes } none).addSegment 0
    { sequence := 1, name := "segment-1.ts", iframePrefixBytes := 188 } none

theorem readPlaylist_twoSegments :
    let s := ((twoSegments 188).playlist 0 []).1
    (readPlaylist (s.iframePlaylist [])).segments[1]? =
      (readPlaylist ((twoSegments 188).playlist 0 []).2).segments[1]? := by
  have hall : ∀ segment ∈ (twoSegments 188).window, segment.iframePrefixBytes ≠ 0 := by
    decide +kernel
  refine (readPlaylist_iframes_iff (twoSegments 188) [] 0 (by decide +kernel)
    (by decide +kernel)).mpr ?_ 1 _ rfl rfl
  exact fun i segment _ _ => ⟨fun earlier hearlier => hall earlier (mem_of_mem_take hearlier), rfl⟩

/-- The second of two segments is the first that is listed, and is counted as the first. -/
theorem readPlaylist_skipped :
    let s := ((twoSegments 0).playlist 0 []).1
    (readPlaylist (s.iframePlaylist [])).segments = [(textBytes "segment-1.ts", 0, 0)] ∧
      (readPlaylist ((twoSegments 0).playlist 0 []).2).segments =
        [(textBytes "segment-0.ts", 0, 0), (textBytes "segment-1.ts", 1, 0)] := by
  decide +kernel

end SegmentStore

end RtmpCore.Hls
