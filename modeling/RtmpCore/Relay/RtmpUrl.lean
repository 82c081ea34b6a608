import RtmpCore.Core.Error
import RtmpCore.Http.Message

/-!
# Target URLs and their redaction

The stream part of a target's URL, with its query, is the key that the target
accepts the publisher by.  The status of a target shows the URL redacted to the
last four bytes of the key.  The parser ends the application at the first slash
behind it, and the redaction takes the last slash of the URL for that end.
-/

namespace RtmpCore.Relay

open RtmpCore.Core Text Http List

structure RtmpUrl where
  host : Bytes
  port : UInt16 := 1935
  application : Bytes
  stream : Bytes
  tcUrl : Bytes
deriving DecidableEq

def urlError (message : String) : Error := ⟨.invalidConfiguration, .configuration, message⟩

def slash : UInt8 := 0x2F

def colon : UInt8 := 0x3A

def scheme : Bytes := "rtmp://"

/-- The host and the text of the port. -/
def splitAuthority (authority : Bytes) : Except Error (Bytes × Bytes) :=
  if authority.head? = some 0x5B then
    match cut 0x5D authority.tail with
    | none | some ([], _) => .error (urlError "invalid bracketed IPv6 host")
    | some (host, []) => .ok (host, [])
    | some (host, next :: port) =>
      if next = colon then .ok (host, port) else .error (urlError "invalid RTMP authority")
  else
    match cut colon authority with
    | none => .ok (authority, [])
    | some (host, port) =>
      if colon ∈ port then .error (urlError "IPv6 RTMP hosts must be enclosed in brackets")
      else .ok (host, port)

def parsePort (authority text : Bytes) : Except Error UInt16 :=
  if text = [] then
    if authority.getLast? = some colon then .error (urlError "RTMP URL has an empty port")
    else .ok 1935
  else
    match fromChars text with
    | none => .error (urlError "RTMP URL has an invalid port")
    | some port =>
      if port = 0 ∨ 65535 < port then .error (urlError "RTMP URL has an invalid port")
      else .ok (.ofNat port)

def parseAuthority (authority : Bytes) : Except Error (Bytes × UInt16) := do
  let (host, portText) ← splitAuthority authority
  if host = [] then throw (urlError "RTMP URL has an empty host")
  return (host, ← parsePort authority portText)

def parseRtmpUrl (url : Bytes) : Except Error RtmpUrl :=
  if 0x23 ∈ url then .error (urlError "RTMP URL fragments are not sent to the origin")
  else if url.any (· ≤ 0x20) then
    .error (urlError "RTMP URL contains whitespace or a control character")
  else if !scheme.isPrefixOf url then
    .error (urlError "URL must use plain rtmp:// (RTMPS is not enabled in the native client)")
  else
    match cut slash (url.drop scheme.length) with
    | none | some ([], _) | some (_, []) =>
      .error (urlError "RTMP URL must be rtmp://host[:port]/application/stream")
    | some (authority, pathAndQuery) =>
      if 0x40 ∈ authority then
        .error (urlError
          "userinfo in an RTMP URL is unsupported; pass authentication in the stream query")
      else do
        let (host, port) ← parseAuthority authority
        match cut slash (pathAndQuery.takeWhile (· ≠ 0x3F)) with
        | none | some ([], _) | some (_, []) =>
          throw (urlError "RTMP URL must contain both application and stream names")
        | some (application, name) =>
          return {
            host, port, application
            stream := name ++ pathAndQuery.dropWhile (· ≠ 0x3F)
            tcUrl := scheme ++ authority ++ slash :: application }

def keyOf (text : Bytes) : Bytes := text.rtakeWhile (· ≠ slash)

def directoryOf (text : Bytes) : Bytes := text.rdropWhile (· ≠ slash)

def lastFour (text : Bytes) : Bytes := text.drop (text.length - 4)

def redactRtmpUrl (url : Bytes) : Bytes :=
  if slash ∉ url ∨ keyOf url = [] then url
  else if (keyOf url).length ≤ 4 then directoryOf url ++ "****"
  else directoryOf url ++ "****" ++ lastFour (keyOf url)

/-! ## What the redaction shows -/

section Redaction

variable {text text' base url : Bytes} {parsed : RtmpUrl}

theorem directoryOf_append_keyOf (text : Bytes) : directoryOf text ++ keyOf text = text :=
  rdropWhile_append_rtakeWhile

theorem slash_notMem_keyOf (text : Bytes) : slash ∉ keyOf text := by
  intro hmem
  simpa using mem_rtakeWhile_imp hmem

theorem directoryOf_append (front : Bytes) (h : slash ∉ text) :
    directoryOf (front ++ text) = directoryOf front := by
  induction text using List.reverseRecOn with
  | nil => rw [append_nil]
  | append_singleton text b ih =>
    simp only [mem_append, mem_singleton, not_or] at h
    rw [← append_assoc, directoryOf, rdropWhile_concat_pos _ _ _ (by simpa using Ne.symm h.2)]
    exact ih h.1

theorem directoryOf_append_cons (base text : Bytes) :
    directoryOf (base ++ slash :: text) = base ++ slash :: directoryOf text := by
  induction text using List.reverseRecOn with
  | nil => exact rdropWhile_concat_neg _ _ _ (by simp)
  | append_singleton text b ih =>
    rw [← cons_append, ← append_assoc, directoryOf, directoryOf,
      rdropWhile_concat, rdropWhile_concat]
    split_ifs
    · exact ih
    · simp

theorem keyOf_append_cons (base text : Bytes) : keyOf (base ++ slash :: text) = keyOf text := by
  have h := directoryOf_append_keyOf (base ++ slash :: text)
  conv_rhs at h => rw [← directoryOf_append_keyOf text]
  rw [directoryOf_append_cons, ← cons_append, ← append_assoc] at h
  exact append_cancel_left h

/-- What the redaction shows of a key. -/
def mask (key : Bytes) : Bytes :=
  if key = [] then [] else if key.length ≤ 4 then "****"
  else "****" ++ lastFour key

theorem redactRtmpUrl_eq (base text : Bytes) : redactRtmpUrl (base ++ slash :: text) =
    base ++ slash :: directoryOf text ++ mask (keyOf text) := by
  have hspl := directoryOf_append_keyOf (base ++ slash :: text)
  unfold redactRtmpUrl mask
  rw [← directoryOf_append_cons, ← keyOf_append_cons base text] at *
  split_ifs <;> simp_all

theorem slash_notMem_mask (key : Bytes) (h : slash ∉ key) : slash ∉ mask key := by
  have hstars : slash ∉ textBytes "****" := by decide
  unfold mask
  split_ifs
  · exact not_mem_nil
  · exact hstars
  · exact not_mem_append hstars fun hmem => h (mem_of_mem_drop hmem)

theorem length_mask_le_iff (key : Bytes) : (mask key).length ≤ 4 ↔ key.length ≤ 4 := by
  have hstars : (textBytes "****").length = 4 := by decide
  unfold mask
  split_ifs with hemp hshort
  · simp [hemp]
  · simp [hstars, hshort]
  · simp only [length_append, hstars, lastFour, length_drop]
    omega

theorem url_of_parseRtmpUrl (h : parseRtmpUrl url = .ok parsed) :
    url = parsed.tcUrl ++ slash :: parsed.stream := by
  unfold parseRtmpUrl at h
  split_ifs at h with hhash hspace hscheme
  obtain ⟨remainder, rfl⟩ : scheme <+: url := by simpa using hscheme
  rw [drop_left] at h
  split at h
  any_goals cases h
  rename_i authority pathAndQuery _ _ hcut
  split_ifs at h
  obtain ⟨⟨host, port⟩, -, hpath⟩ := bind_eq_ok.mp h
  dsimp only at hpath
  split at hpath
  any_goals cases hpath
  rename_i hname
  have hparts := takeWhile_append_dropWhile (p := (· ≠ 0x3F)) (l := pathAndQuery)
  rw [← (cut_eq_some hname).1] at hparts
  rw [← (cut_eq_some hcut).1]
  conv_lhs => rw [← hparts]
  simp

theorem getLast?_lastFour (h : 4 < text.length) : (lastFour text).getLast? = text.getLast? := by
  rw [lastFour, getLast?_drop, if_neg (by omega)]

theorem keyOf_eq_nil_iff (h : text ≠ []) : keyOf text = [] ↔ text.getLast? = some slash := by
  rw [keyOf, rtakeWhile_eq_nil_iff, getLast?_eq_some_getLast h]
  simp [h]

theorem lastFour_keyOf (h : 4 < (keyOf text).length) : lastFour (keyOf text) = lastFour text := by
  conv_rhs => rw [← directoryOf_append_keyOf text]
  rw [lastFour, lastFour, length_append, Nat.add_sub_assoc h.le, drop_append]
  simp

/-- Stream parts that end alike have masks alike, if both keys are short or both
are long. -/
theorem mask_keyOf_eq (hlast : lastFour text = lastFour text') (hlong : 4 < text.length)
    (hlong' : 4 < text'.length) (hkeys : (keyOf text).length ≤ 4 ↔ (keyOf text').length ≤ 4) :
    mask (keyOf text) = mask (keyOf text') := by
  have hnil : keyOf text = [] ↔ keyOf text' = [] := by
    rw [keyOf_eq_nil_iff (ne_nil_of_length_pos (by omega)),
      keyOf_eq_nil_iff (ne_nil_of_length_pos (by omega)), ← getLast?_lastFour hlong,
      hlast, getLast?_lastFour hlong']
  simp only [mask, hnil, hkeys]
  split_ifs with hemp hshort
  · rfl
  · rfl
  · rw [lastFour_keyOf (by omega), lastFour_keyOf (by omega), hlast]

/-- Two URLs with the same authority and application whose stream parts end alike
are redacted to the same text exactly when the stream parts agree up to their last
slash and what follows it is short, or long, in both. -/
theorem redactRtmpUrl_eq_iff {url url' : Bytes} {parsed parsed' : RtmpUrl}
    (hparsed : parseRtmpUrl url = .ok parsed) (hparsed' : parseRtmpUrl url' = .ok parsed')
    (hsame : parsed.tcUrl = parsed'.tcUrl)
    (hlast : lastFour parsed.stream = lastFour parsed'.stream)
    (hlong : 4 < parsed.stream.length) (hlong' : 4 < parsed'.stream.length) :
    redactRtmpUrl url = redactRtmpUrl url' ↔
      directoryOf parsed.stream = directoryOf parsed'.stream ∧
        ((keyOf parsed.stream).length ≤ 4 ↔ (keyOf parsed'.stream).length ≤ 4) := by
  rw [url_of_parseRtmpUrl hparsed, url_of_parseRtmpUrl hparsed', redactRtmpUrl_eq,
    redactRtmpUrl_eq, hsame]
  -- the directory of a redacted text is the directory of the text
  have hself (text : Bytes) :
      directoryOf (parsed'.tcUrl ++ slash :: directoryOf text ++ mask (keyOf text)) =
        parsed'.tcUrl ++ slash :: directoryOf text := by
    rw [directoryOf_append _ (slash_notMem_mask _ (slash_notMem_keyOf text)),
      directoryOf_append_cons]
    exact congrArg (parsed'.tcUrl ++ slash :: ·) (rdropWhile_idempotent _ text)
  constructor
  · intro h
    have hdirectory : directoryOf parsed.stream = directoryOf parsed'.stream := by
      have hshown := congrArg directoryOf h
      rw [hself, hself] at hshown
      exact cons_injective (append_cancel_left hshown)
    rw [hdirectory] at h
    refine ⟨hdirectory, ?_⟩
    rw [← length_mask_le_iff (keyOf _), append_cancel_left h, length_mask_le_iff]
  · rintro ⟨hdirectory, hkeys⟩
    rw [hdirectory, mask_keyOf_eq hlast hlong hlong' hkeys]

theorem redactRtmpUrl_plain_key : redactRtmpUrl "rtmp://h/live/secret-abcd" =
      redactRtmpUrl "rtmp://h/live/other-abcd" :=
  (@redactRtmpUrl_eq_iff _ _
    ⟨"h", 1935, "live", "secret-abcd", "rtmp://h/live"⟩
    ⟨"h", 1935, "live", "other-abcd", "rtmp://h/live"⟩
    (by decide +kernel) (by decide +kernel) rfl (by decide +kernel) (by decide) (by decide)).mpr
    (by decide +kernel)

/-- Two keys that end alike and have a slash, here in their queries, are told apart. -/
theorem redactRtmpUrl_shows_key :
    (parseRtmpUrl "rtmp://h/live/secret?t=1/abcd").map (fun u => (u.tcUrl, u.stream)) =
        .ok ("rtmp://h/live", "secret?t=1/abcd") ∧
      (parseRtmpUrl "rtmp://h/live/other?t=1/abcd").map (fun u => (u.tcUrl, u.stream)) =
        .ok ("rtmp://h/live", "other?t=1/abcd") ∧
      redactRtmpUrl "rtmp://h/live/secret?t=1/abcd" = "rtmp://h/live/secret?t=1/****" ∧
      redactRtmpUrl "rtmp://h/live/other?t=1/abcd" = "rtmp://h/live/other?t=1/****" := by
  decide +kernel

end Redaction

end RtmpCore.Relay
