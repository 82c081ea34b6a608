import RtmpCore.Hls.Waiters
import RtmpCore.Http.EventLoop
import RtmpCore.Http.ResponseHead

/-!
# Response heads of the HLS handler

Which texts of a request, of the options and of the registry get into the head
of a response, and that the head is well framed exactly if none of them breaks
a line.  A response that is postponed is followed to what is sent in its place:
the response for a timeout, or any that is supplied later.
-/

namespace RtmpCore.Hls

open RtmpCore.Core Text Http List Option

/-! ## Headers -/

section Headers

variable {resp : HttpResponse} {name : String} {value : Bytes} {keep : Bool}

/-- There is no header of that name. -/
def Fresh (response : HttpResponse) (name : String) : Prop :=
  textBytes name ∉ response.headers.map Prod.fst

theorem headers_setHeader (hfsh : Fresh resp name) : (setHeader resp name value).headers =
      resp.headers ++ [(textBytes name, value)] := by
  have hall : resp.headers.filter (·.1 ≠ textBytes name) = resp.headers := by
    refine filter_eq_self.mpr fun field hfld => ?_
    simp only [decide_eq_true_eq]
    rintro heq
    exact hfsh (heq ▸ mem_map_of_mem hfld)
  rw [setHeader, hall]

theorem wellFramed_iff_fields : resp.WellFramed keep ↔ SingleLine resp.contentType ∧
      ∀ field ∈ resp.headers, SingleLine field.1 ∧ SingleLine field.2 := by
  simp only [HttpResponse.wellFramed_iff, HttpResponse.texts, forall_mem_cons,
    forall_mem_flatMap, not_mem_nil, false_imp_iff, implies_true, and_true]

theorem wellFramed_setHeader (hfsh : Fresh resp name) (hname : SingleLine (textBytes name)) :
    (setHeader resp name value).WellFramed keep ↔ resp.WellFramed keep ∧ SingleLine value := by
  rw [wellFramed_iff_fields, wellFramed_iff_fields, headers_setHeader hfsh,
    forall_mem_append, forall_mem_singleton, and_iff_right hname, and_assoc]
  rfl

variable {options : HlsHttpOptions} {cacheControl location : Bytes} {request : HttpRequest}

theorem headers_decorate (hbare : resp.headers = []) :
    (options.decorate resp cacheControl).headers = (textBytes "Cache-Control", cacheControl) ::
        ((if options.corsAllowOrigin = [] then [] else
          [(textBytes "Access-Control-Allow-Origin", options.corsAllowOrigin),
            (textBytes "Access-Control-Expose-Headers", "Content-Length,Content-Range")]) ++
        if options.enableRangeRequests then [(textBytes "Accept-Ranges", textBytes "bytes")]
        else []) := by
  unfold HlsHttpOptions.decorate HlsHttpOptions.allowOrigin
  by_cases hnone : options.corsAllowOrigin = [] <;>
    cases hranges : options.enableRangeRequests <;>
      simp +decide [setHeader, hbare, hnone]

theorem headers_redirect : (HlsHttpHandler.redirect options location).headers =
      (textBytes "Location", location) ::
        ("Cache-Control", "private, no-store") ::
        if options.corsAllowOrigin = [] then [] else
          [("Access-Control-Allow-Origin", options.corsAllowOrigin)] := by
  unfold HlsHttpHandler.redirect HlsHttpOptions.allowOrigin
  by_cases hnone : options.corsAllowOrigin = [] <;> simp +decide [setHeader, hnone]

theorem wellFramed_withoutBody (hfsh : Fresh resp "Content-Length") :
    (HlsHttpHandler.withoutBody request resp).WellFramed keep ↔ resp.WellFramed keep := by
  unfold HlsHttpHandler.withoutBody
  split
  · have hlen : (setHeader resp "Content-Length"
        (decimalText resp.payloadSize)).WellFramed keep ↔ resp.WellFramed keep := by
      rw [wellFramed_setHeader hfsh (by decide), and_iff_left (singleLine_decimalText _)]
    rw [HttpResponse.wellFramed_iff] at hlen ⊢
    exact hlen
  · rfl

end Headers

namespace HlsHttpHandler

/-! ## Texts -/

variable (env : Environment) (options : HlsHttpOptions) (h : HlsHttpHandler) (request : HttpRequest)

/-- A new session puts the target of the request into the head. -/
def sessionTexts : List Bytes :=
  let cookie := cookieValue request options.viewerCookieName
  let reuse := isPlaybackSession cookie
  if isPlaybackSession (if reuse then cookie else env.mintedSession) = false then []
  else
    [request.path, queryWithoutSessionParams request.query, options.corsAllowOrigin] ++
      if reuse then [] else [options.viewerCookieName, options.routePrefix]

/-- So does a fast join, with the name of the rendition. -/
def masterTexts (query : Bytes) (renditions : List Rendition) (application : Bytes) : List Bytes :=
  if renditions = [] then []
  else if fastJoinStream options renditions ≠ [] then
    [options.routePrefix, application, fastJoinStream options renditions, query,
      options.corsAllowOrigin]
  else [masterCaching options, options.corsAllowOrigin]

def payloadTexts (payload : Bytes) : List Bytes :=
  let range :=
    if options.enableRangeRequests then request.headers.lookup (textBytes "range")
    else none
  if range.any (fun header => (parseRange header payload.length).isNone) then []
  else [options.segmentCacheControl, options.corsAllowOrigin]

def segmentTexts (store : SegmentStore) (name : Bytes) : List Bytes :=
  match store.findSegment name with
  | some segment => payloadTexts options request segment.data
  | none =>
    match store.findPart name with
    | some part => payloadTexts options request part.data
    | none => []

/-- The identity of the key that a resource names. -/
def keyId (resource : Bytes) : Bytes :=
  (resource.drop kKeyResourcePrefix.length).take
    (resource.length - kKeyResourcePrefix.length - kKeyResourceSuffix.length)

def keyTexts (encryptor : Option SegmentEncryptor) (resource : Bytes) : List Bytes :=
  match encryptor with
  | none => []
  | some encryptor =>
    if encryptor.enabled = false then []
    else
      match encryptor.keys.find? (·.id = keyId resource) with
      | none => []
      | some _ => [options.keyCacheControl, options.corsAllowOrigin]

/-- The texts that a resource of a stream has in its head. -/
def resourceTexts (application resource : Bytes) (e : ℕ) (store : Option ℕ) : List Bytes :=
  let options := h.options
  if resource = "master.m3u8" then
    masterTexts options request.query ((h.entries e).renditions.getD []) application
  else
    match store with
    | none => []
    | some σ =>
      if resource = "iframe.m3u8" then
        if options.enableIframePlaylists then
          [options.playlistCacheControl, options.corsAllowOrigin]
        else []
      else if isMediaPlaylistName resource then
        [options.playlistCacheControl, options.corsAllowOrigin]
      else if endsWith resource ".ts" then segmentTexts options request (h.stores σ) resource
      else if isKeyResource resource then keyTexts options (h.entries e).encryptor resource
      else []

def streamTexts (application stream resource : Bytes) : List Bytes :=
  if env.enabledChecker.any (!· application stream) then []
  else if authorized env h.options request.query application stream = false then []
  else
    match h.findEntry application stream with
    | none => []
    | some e =>
      let store := (h.entries e).store
      if resource ≠ "master.m3u8" ∧ store = none then []
      else if needsSession h.options request.query resource then sessionTexts env h.options request
      else h.resourceTexts request application resource e store

/-- The texts of the request, of the options and of the registry that get into
the head of the response. -/
def requestTexts : List Bytes :=
  if inPrefix h.options request.path = false then
    match env.next with
    | some next => (next request).texts
    | none => []
  else if request.method ≠ "GET" ∧ ¬ isHead request then []
  else if passesEdge h.options request = false then []
  else
    match splitPath (request.path.drop h.options.routePrefix.length) with
    | some [application, stream, resource] => streamTexts env h request application stream resource
    | _ => []

/-! ## Responses that are there at once -/

section Ready

variable {options : HlsHttpOptions} {request : HttpRequest} {keep : Bool}

/-- The head depends on these texts, and the response is there. -/
structure Shows (response : HttpResponse) (texts : List Bytes) : Prop where
  framed : ∀ keepAlive, response.WellFramed keepAlive ↔ ∀ text ∈ texts, SingleLine text
  ready : response.deferred = none

/-- Moreover, the head does not say how long the body is. -/
structure Unsized (response : HttpResponse) (texts : List Bytes) : Prop
    extends Shows response texts where
  fresh : Fresh response "Content-Length"

variable {resp : HttpResponse} {sess : Bytes}

theorem Unsized.withoutBody {texts : List Bytes} (hshows : Unsized resp texts) :
    Shows (withoutBody request resp) texts where
  framed := fun keep => (wellFramed_withoutBody hshows.fresh).trans (hshows.framed keep)
  ready := by
    unfold HlsHttpHandler.withoutBody
    split <;> exact hshows.ready

theorem shows_plain (status : ℕ) (body : String) : Shows (plain status body) [] where
  framed := fun keep => by simp +decide [wellFramed_iff_fields, plain]
  ready := rfl

theorem unsized_noStore (status : ℕ) (body : String) :
    Unsized (noStore (plain status body)) [] := by
  refine ⟨⟨fun keep => ?_, rfl⟩, ?_⟩
  · simp +decide [wellFramed_iff_fields, noStore, plain, setHeader]
  · simp +decide [Fresh, noStore, plain, setHeader]

theorem shows_methodNotAllowed : Shows methodNotAllowed [] where
  framed := fun keep => by decide +revert
  ready := rfl

theorem deferred_allowOrigin (resp : HttpResponse) :
    (options.allowOrigin resp).deferred = resp.deferred := by
  unfold HlsHttpOptions.allowOrigin
  split <;> rfl

theorem deferred_decorate (resp : HttpResponse) (cacheControl : Bytes) :
    (options.decorate resp cacheControl).deferred = resp.deferred := by
  unfold HlsHttpOptions.decorate
  split <;> split <;> simp only [setHeader, deferred_allowOrigin]

theorem contentType_decorate (resp : HttpResponse) (cacheControl : Bytes) :
    (options.decorate resp cacheControl).contentType = resp.contentType := by
  unfold HlsHttpOptions.decorate HlsHttpOptions.allowOrigin
  split <;> split <;> rfl

theorem fresh_decorate {cacheControl : Bytes} (hbare : resp.headers = [])
    (hname : name = "Content-Length" ∨ name = "Content-Range") :
    Fresh (options.decorate resp cacheControl) name := by
  rw [Fresh, headers_decorate hbare]
  by_cases hnone : options.corsAllowOrigin = [] <;>
    cases options.enableRangeRequests <;> rcases hname with rfl | rfl <;> simp +decide [hnone]

theorem unsized_decorate {cacheControl : Bytes}
    (hbare : resp.headers = []) (hready : resp.deferred = none)
    (htype : SingleLine resp.contentType) :
    Unsized (options.decorate resp cacheControl) [cacheControl, options.corsAllowOrigin] := by
  refine ⟨⟨fun keep => ?_, (deferred_decorate _ _).trans hready⟩, fresh_decorate hbare (.inl rfl)⟩
  rw [wellFramed_iff_fields, contentType_decorate, headers_decorate hbare]
  by_cases hnone : options.corsAllowOrigin = [] <;>
    cases options.enableRangeRequests <;> simp +decide [htype, hnone]

theorem unsized_playlistResponse (options : HlsHttpOptions) (text query : Bytes) :
    Unsized (playlistResponse options text query)
      [options.playlistCacheControl, options.corsAllowOrigin] :=
  unsized_decorate rfl rfl (show SingleLine kContentTypeM3u8 by decide)

theorem singleLine_marks :
    (slash ≠ 0x0D ∧ slash ≠ 0x0A) ∧ (questionMark ≠ 0x0D ∧ questionMark ≠ 0x0A) ∧
      (ampersand ≠ 0x0D ∧ ampersand ≠ 0x0A) ∧
      (equalsSign ≠ 0x0D ∧ equalsSign ≠ 0x0A) := by decide

theorem singleLine_fastJoinLocation (app stream query : Bytes) :
    SingleLine (fastJoinLocation options app stream query) ↔
      SingleLine options.routePrefix ∧ SingleLine app ∧ SingleLine stream ∧ SingleLine query := by
  obtain ⟨hslash, hmark, -⟩ := singleLine_marks
  have hname : SingleLine "/index.m3u8" := by decide
  have hquery : SingleLine (if query = [] then [] else questionMark :: query) ↔
      SingleLine query := by
    split
    next hnone => simp [hnone]
    · rw [singleLine_cons, and_iff_right hmark]
  unfold fastJoinLocation
  rw [singleLine_append, hquery, singleLine_append, and_iff_left hname]
  simp only [singleLine_append, singleLine_cons, and_iff_right hslash, and_assoc]

theorem wellFramed_redirect {location : Bytes} : (redirect options location).WellFramed keep ↔
      SingleLine location ∧ SingleLine options.corsAllowOrigin := by
  have htype : SingleLine (redirect options location).contentType := by
    unfold redirect HlsHttpOptions.allowOrigin
    split <;> exact show SingleLine "text/plain" by decide
  rw [wellFramed_iff_fields, and_iff_right htype, headers_redirect]
  by_cases hnone : options.corsAllowOrigin = [] <;> simp +decide [hnone]

theorem unsized_serveMasterPlaylist (query : Bytes) (renditions : List Rendition) (app : Bytes) :
    Unsized (serveMasterPlaylist options query renditions app)
      (masterTexts options query renditions app) := by
  unfold serveMasterPlaylist masterTexts
  split
  · exact ⟨shows_plain _ _, by simp [Fresh, plain]⟩
  · split
    · refine ⟨⟨fun keep => ?_, deferred_allowOrigin _⟩, ?_⟩
      · rw [wellFramed_redirect, singleLine_fastJoinLocation]
        simp [and_assoc]
      · rw [Fresh, headers_redirect]
        by_cases hnone : options.corsAllowOrigin = [] <;> simp +decide [hnone]
    · exact unsized_decorate rfl rfl (show SingleLine kContentTypeM3u8 by decide)

theorem singleLine_contentRange (start finish size : ℕ) :
    SingleLine (contentRange start finish size) := by
  have hunit : SingleLine "bytes " := by decide
  have hdash : SingleLine "-" := by decide
  have hslash : SingleLine "/" := by decide
  simp [contentRange, hunit, hdash, hslash]

theorem unsized_servePayload (payload : Bytes) : Unsized (servePayload options request payload)
    (payloadTexts options request payload) := by
  have htype : SingleLine kContentTypeMpegTs := by decide
  unfold servePayload payloadTexts
  dsimp only
  split
  next header hrng =>
    split
    next start finish hpar =>
      have hresource := @unsized_decorate options
        { status := 206
          contentType := kContentTypeMpegTs
          sharedBody := payload
          sharedBodyOffset := start
          sharedBodyLength := (finish - start + 1) % 2 ^ 64 }
        options.segmentCacheControl rfl rfl htype
      simp only [hrng, any_some, hpar]
      refine ⟨⟨fun keep => ?_, hresource.ready⟩, ?_⟩
      · rw [wellFramed_setHeader (fresh_decorate rfl (.inr rfl)) (by decide),
          and_iff_left (singleLine_contentRange start finish _)]
        exact hresource.framed keep
      · rw [Fresh, headers_setHeader (fresh_decorate rfl (.inr rfl)), map_append, mem_append,
          not_or]
        exact ⟨hresource.fresh, by simp +decide⟩
    next hpar =>
      have hsize : SingleLine (textBytes "bytes */" ++ decimalText payload.length) := by
        rw [singleLine_append]
        exact ⟨by decide, singleLine_decimalText _⟩
      simp only [hrng, any_some, hpar]
      refine ⟨⟨fun keep => ?_, rfl⟩, ?_⟩
      · simp +decide [wellFramed_iff_fields, setHeader, hsize]
      · simp +decide [Fresh, setHeader]
  next hrng =>
    simp only [hrng]
    exact unsized_decorate rfl rfl htype

theorem unsized_serveSegment (options : HlsHttpOptions) (request : HttpRequest)
    (store : SegmentStore) (name : Bytes) : Unsized (serveSegment options request store name)
      (segmentTexts options request store name) := by
  unfold serveSegment segmentTexts
  cases store.findSegment name with
  | some seg => exact unsized_servePayload seg.data
  | none =>
    cases store.findPart name with
    | some part => exact unsized_servePayload part.data
    | none => exact unsized_noStore _ _

theorem unsized_serveKey (options : HlsHttpOptions)
    (encryptor : Option SegmentEncryptor) (resource : Bytes) :
    Unsized (serveKey options encryptor resource) (keyTexts options encryptor resource) := by
  unfold serveKey keyTexts keyId
  cases encryptor with
  | none => exact unsized_noStore _ _
  | some encryptor =>
    dsimp only
    split
    · exact unsized_noStore _ _
    · cases encryptor.keys.find? _ with
      | none => exact unsized_noStore _ _
      | some key =>
        refine ⟨⟨fun keep => ?_, deferred_allowOrigin _⟩, ?_⟩ <;>
          unfold HlsHttpOptions.allowOrigin <;>
          by_cases hnone : options.corsAllowOrigin = []
        · simp +decide [wellFramed_iff_fields, setHeader, hnone]
        · simp +decide [wellFramed_iff_fields, setHeader, hnone]
        · simp +decide [Fresh, setHeader, hnone]
        · simp +decide [Fresh, setHeader, hnone]

theorem singleLine_percentEncode (value : Bytes) : SingleLine (percentEncode value) := by
  let code := fun b : UInt8 =>
    if isUnreserved b then [b]
    else [0x25, upperHexDigit (b >>> 4), upperHexDigit (b &&& 0x0F)]
  have hbyte : ∀ n : Fin 256, SingleLine (code (.ofNat n)) := by decide +kernel
  have hcode : ∀ b : UInt8, SingleLine (code b) := by
    intro b
    simpa only [UInt8.ofNat_toNat] using hbyte ⟨b.toNat, b.toNat_lt⟩
  refine ⟨fun hmem => ?_, fun hmem => ?_⟩
  · obtain ⟨b, -, hb⟩ := mem_flatMap.mp hmem
    exact (hcode b).1 hb
  · obtain ⟨b, -, hb⟩ := mem_flatMap.mp hmem
    exact (hcode b).2 hb

theorem singleLine_of_isPlaybackSession (h : isPlaybackSession sess = true) : SingleLine sess := by
  have hall := (Bool.and_eq_true_iff.mp h).2
  refine singleLine_iff_forall.mpr fun b hb => ?_
  have hhex := all_eq_true.mp hall b hb
  constructor <;>
  · rintro rfl
    revert hhex
    decide

theorem singleLine_intText (n : ℤ) : SingleLine (intText n) := by
  unfold intText
  split
  · exact (singleLine_cons _ _).mpr ⟨by decide, singleLine_decimalText _⟩
  · exact singleLine_decimalText _

theorem singleLine_sessionQuery (query stream : Bytes) (hses : isPlaybackSession sess = true) :
    SingleLine (sessionQuery options query stream sess) ↔
      SingleLine (queryWithoutSessionParams query) := by
  obtain ⟨-, -, hamp, hequals⟩ := singleLine_marks
  have hnames : SingleLine kPlaybackSessionParam ∧ SingleLine kPlaybackStreamParam ∧
      SingleLine kSharedCacheParam ∧ SingleLine "=1" := by decide
  have hshar : SingleLine (if options.enableSharedPlaylistCache then
      ampersand :: kSharedCacheParam ++ "=1" else []) := by
    split
    · simp only [cons_append, singleLine_cons, singleLine_append]
      exact ⟨hamp, hnames.2.2⟩
    · exact singleLine_nil
  have hkept : SingleLine (if queryWithoutSessionParams query = [] then []
        else queryWithoutSessionParams query ++ [ampersand]) ↔
      SingleLine (queryWithoutSessionParams query) := by
    split
    next hnone => simp [hnone]
    · rw [singleLine_append]
      exact and_iff_left (by decide)
  unfold sessionQuery
  simp only [singleLine_append, singleLine_cons, hkept, hshar, hnames.1,
    hnames.2.1, singleLine_of_isPlaybackSession hses,
    singleLine_percentEncode, and_iff_right hamp, and_iff_right hequals, and_true]

theorem singleLine_viewerCookie (hses : isPlaybackSession sess = true) :
    SingleLine (viewerCookie options sess) ↔
      SingleLine options.viewerCookieName ∧ SingleLine options.routePrefix := by
  obtain ⟨-, -, -, hequals⟩ := singleLine_marks
  have htexts : SingleLine "; Path=" ∧ SingleLine "; HttpOnly; SameSite=" ∧
      SingleLine "; Max-Age=" := by decide
  have hsite : SingleLine (textBytes (if options.corsAllowOrigin ≠ [] ∧
      options.viewerCookieSecure then "None" else "Lax")) := by
    split <;> decide
  have hsecure : SingleLine (if options.viewerCookieSecure then
      "; Secure" else []) := by
    split <;> decide
  unfold viewerCookie
  simp only [singleLine_append, singleLine_cons, htexts, hsite, hsecure,
    singleLine_intText, singleLine_of_isPlaybackSession hses, and_iff_right hequals, and_true]

theorem shows_sessionRedirect (env : Environment) (stream : Bytes) :
    Shows (sessionRedirect env options request stream) (sessionTexts env options request) := by
  unfold sessionRedirect sessionTexts
  by_cases hses : isPlaybackSession
      (if isPlaybackSession (cookieValue request options.viewerCookieName) then
        cookieValue request options.viewerCookieName
      else env.mintedSession) = false
  · rw [if_pos hses, if_pos hses]
    exact (unsized_noStore _ _).toShows
  · rw [if_neg hses, if_neg hses]
    have hmade := (Bool.not_eq_false _).mp hses
    have hloc (keep : Bool) : (redirect options
        (request.path ++ questionMark :: sessionQuery options request.query stream
          (if isPlaybackSession (cookieValue request options.viewerCookieName) then
            cookieValue request options.viewerCookieName
          else env.mintedSession))).WellFramed keep ↔
        SingleLine request.path ∧ SingleLine (queryWithoutSessionParams request.query) ∧
          SingleLine options.corsAllowOrigin := by
      rw [wellFramed_redirect, singleLine_append, singleLine_cons,
        and_iff_right singleLine_marks.2.1, singleLine_sessionQuery _ _ hmade, and_assoc]
    by_cases hreuse : isPlaybackSession (cookieValue request options.viewerCookieName) = true
    · simp only [hreuse, if_true] at hloc ⊢
      refine ⟨fun keep => ?_, deferred_allowOrigin _⟩
      simp [hloc]
    · simp only [hreuse, if_false, Bool.false_eq_true] at hloc hmade ⊢
      refine ⟨fun keep => ?_, deferred_allowOrigin _⟩
      rw [wellFramed_setHeader ?_ (by decide), hloc, singleLine_viewerCookie hmade]
      · simp [and_assoc]
      · rw [Fresh, headers_redirect]
        by_cases hnone : options.corsAllowOrigin = [] <;> simp +decide [hnone]

end Ready

/-! ## Responses that are supplied later -/

theorem Supplied.wellFramed {options : HlsHttpOptions} {resp : HttpResponse}
    (hsupp : Supplied options resp) (keep : Bool) (hcache : SingleLine options.playlistCacheControl)
    (horigin : SingleLine options.corsAllowOrigin) : resp.WellFramed keep := by
  cases hsupp with
  | playlist text query =>
    exact ((unsized_playlistResponse options text query).framed keep).mpr
      (by simp [hcache, horigin])
  | gone | closing => exact ((unsized_noStore _ _).framed keep).mpr nofun

/-- Nothing but such responses was supplied. -/
structure Supplies (h h' : HlsHttpHandler) : Prop where
  options : h'.options = h.options
  supplied : ∀ answer ∈ h'.resolutions, answer ∈ h.resolutions ∨ Supplied h.options answer.2

theorem Moves.supplies {h h' : HlsHttpHandler} (hmoves : Moves h h') : Supplies h h' := by
  induction hmoves with
  | refl => exact ⟨rfl, fun _ => .inl⟩
  | @tail h' _ _ hmove ih =>
    cases hmove with
    | same hopts _ _ hres => exact ⟨hopts.trans ih.options, hres ▸ ih.supplied⟩
    | setEntry => exact { ih with }
    | resolve d hsupp =>
      refine ⟨ih.options, fun answer hans => ?_⟩
      unfold HlsHttpHandler.resolve at hans
      split at hans
      · exact ih.supplied answer hans
      · rcases mem_append.mp hans with hold | hnew
        · exact ih.supplied answer hold
        · obtain rfl := mem_singleton.mp hnew
          exact .inr (ih.options ▸ hsupp)
    | park =>
      unfold HlsHttpHandler.park
      dsimp only
      split
      · exact { ih with }
      · exact { ih with }

/-! ## What is sent -/

/-- The response, or what takes the place of a postponed one. -/
def SentFor (result : HlsHttpHandler × HttpResponse) (response : HttpResponse) : Prop :=
  match result.2.deferred with
  | none => response = result.2
  | some d =>
    response = result.1.timeoutResponses d ∨
      ∃ steps, (d, response) ∈ (Run.run perform result.1 steps).resolutions

/-- The responses a request can get.  What the next handler postpones is its
own affair. -/
def MaySend (env : Environment) (h : HlsHttpHandler) (request : HttpRequest)
    (response : HttpResponse) : Prop :=
  if inPrefix h.options request.path = false then response = (handle env h request).2
  else SentFor (handle env h request) response

theorem maySend_of_ready {env : Environment} {h : HlsHttpHandler}
    {request : HttpRequest} (hstarts : inPrefix h.options request.path = true)
    (hready : (handle env h request).2.deferred = none) :
    MaySend env h request (handle env h request).2 := by
  rw [MaySend, if_neg (by simp [hstarts]), SentFor, hready]

/-- Whatever is sent is well framed exactly if the texts are. -/
def Governs (texts : List Bytes) (result : HlsHttpHandler × HttpResponse) : Prop :=
  ∀ keepAlive, (∀ response, SentFor result response →
    response.WellFramed keepAlive) ↔ ∀ text ∈ texts, SingleLine text

theorem Shows.governs {resp : HttpResponse} {texts : List Bytes}
    (hshows : Shows resp texts) (h : HlsHttpHandler) : Governs texts (h, resp) := by
  intro keep
  simp only [SentFor, hshows.ready, forall_eq]
  exact hshows.framed keep

theorem Governs.withoutBody {texts : List Bytes}
    {result : HlsHttpHandler × HttpResponse} (hgov : Governs texts result)
    (hfsh : result.2.deferred = none → Fresh result.2 "Content-Length") (request : HttpRequest) :
    Governs texts (if result.2.deferred.isSome then (result.1, result.2)
      else (result.1, HlsHttpHandler.withoutBody request result.2)) := by
  cases hdef : result.2.deferred with
  | some d => exact hgov
  | none =>
    have hshows : Shows result.2 texts := by
      refine ⟨fun keep => ?_, hdef⟩
      rw [← hgov keep]
      simp only [SentFor, hdef, forall_eq]
    exact (Unsized.withoutBody ⟨hshows, hfsh hdef⟩).governs result.1

theorem timeoutResponses_answers (now σ : ℕ) (h : HlsHttpHandler) (ready : List PlaylistWaiter) :
    (ready.foldl (answerWaiter now σ) h).timeoutResponses = h.timeoutResponses := by
  induction ready generalizing h with
  | nil => rfl
  | cons waiter rest ih => exact ih _

theorem timeoutResponses_park {h parked : HlsHttpHandler} {now e σ d : ℕ}
    {pos : UInt64 × ℤ} {query : Bytes} (hpark : h.park now e σ pos query = (parked, some d)) :
    ∃ text child, (parked.releaseWaiters now e σ).timeoutResponses d =
      playlistResponse h.options text child := by
  unfold park at hpark
  dsimp only at hpark
  split at hpark
  · cases hpark
    unfold releaseWaiters
    rw [timeoutResponses_answers]
    exact ⟨_, _, Function.update_self ..⟩
  · cases hpark

theorem governs_serveMediaResource {h : HlsHttpHandler}
    (hpast : ∀ answer ∈ h.resolutions, Supplied h.options answer.2)
    (now e σ : ℕ) (request : HttpRequest) :
    Governs [h.options.playlistCacheControl, h.options.corsAllowOrigin]
        (h.serveMediaResource now e σ request) ∧
      ((h.serveMediaResource now e σ request).2.deferred = none →
        Fresh (h.serveMediaResource now e σ request).2 "Content-Length") := by
  unfold serveMediaResource
  cases blockedOn h.options request (h.stores σ) with
  | none =>
    have hshows := unsized_playlistResponse h.options
    exact ⟨(hshows _ _).governs _, fun _ => (hshows _ _).fresh⟩
  | some pos =>
    dsimp only
    cases hpark : h.park now e σ pos request.query with
    | mk parked place =>
      have hmoves : Moves h parked := by
        have hall := Moves.perform h (.parked now e σ pos request.query)
        rwa [HlsHttpHandler.perform, hpark] at hall
      cases place with
      | none =>
        rw [← hmoves.supplies.options]
        have hshows := unsized_playlistResponse parked.options
        exact ⟨(hshows _ _).governs _, fun _ => (hshows _ _).fresh⟩
      | some d =>
        refine ⟨fun keep => ?_, nofun⟩
        obtain ⟨text, child, htime⟩ := timeoutResponses_park hpark
        constructor
        · intro hall
          refine ((unsized_playlistResponse h.options text child).framed keep).mp ?_
          exact hall _ (.inl htime.symm)
        · intro htexts resp hsent
          have hcache := htexts h.options.playlistCacheControl (by simp)
          have horigin := htexts h.options.corsAllowOrigin (by simp)
          suffices hsupp : Supplied h.options resp from
            hsupp.wellFramed keep hcache horigin
          rcases hsent with rfl | ⟨steps, hans⟩
          · exact htime ▸ .playlist text child
          · have hlater := (hmoves.trans (Moves.releaseWaiters parked now e σ)).trans
              (Moves.run _ steps)
            rcases (Moves.supplies hlater).supplied _ hans with hold | hnew
            · exact hpast _ hold
            · exact hnew

theorem governs_serveResource {h : HlsHttpHandler}
    (hpast : ∀ answer ∈ h.resolutions, Supplied h.options answer.2)
    (env : Environment) (request : HttpRequest) (app resource : Bytes) (e : ℕ) (store : Option ℕ) :
    Governs (h.resourceTexts request app resource e store)
      (serveResource env h request app resource e store) := by
  unfold serveResource resourceTexts
  split
  · exact (unsized_serveMasterPlaylist _ _ _).withoutBody.governs h
  · cases store with
    | none => exact (unsized_noStore _ _).governs h
    | some σ =>
      dsimp only
      split
      · split
        · exact (unsized_playlistResponse _ _ _).withoutBody.governs h
        · exact (shows_plain _ _).governs h
      · split
        · obtain ⟨hgov, hfsh⟩ := governs_serveMediaResource hpast env.now e σ request
          exact hgov.withoutBody hfsh request
        · split
          · exact (unsized_serveSegment _ _ _ _).withoutBody.governs h
          · split
            · exact (unsized_serveKey _ _ _).withoutBody.governs h
            · exact (shows_plain _ _).governs h

theorem governs_serveStream {h : HlsHttpHandler}
    (hpast : ∀ answer ∈ h.resolutions, Supplied h.options answer.2)
    (env : Environment) (request : HttpRequest) (app stream resource : Bytes) :
    Governs (streamTexts env h request app stream resource)
      (serveStream env h request app stream resource) := by
  unfold serveStream streamTexts
  split
  · exact (shows_plain _ _).governs h
  · split
    · exact (unsized_noStore _ _).governs h
    · cases h.findEntry app stream with
      | none => exact (unsized_noStore _ _).governs h
      | some e =>
        dsimp only
        split
        · exact (unsized_noStore _ _).governs h
        · split
          · exact (shows_sessionRedirect env stream).governs h
          · exact governs_serveResource hpast env request app resource e _

/-- In every state of a run and for every request, whatever is sent has a well
framed head exactly if none of the texts that get into it breaks a line. -/
theorem sent_wellFramed_iff (options : HlsHttpOptions) (stores : ℕ → SegmentStore)
    (steps : List HandlerStep) (env : Environment) (request : HttpRequest) (keepAlive : Bool) :
    let h := Run.run perform { options := options, stores := stores } steps
    (∀ response, MaySend env h request response → response.WellFramed keepAlive) ↔
      ∀ text ∈ requestTexts env h request, SingleLine text := by
  intro h
  have hpast : ∀ answer ∈ h.resolutions, Supplied h.options answer.2 := by
    have hrun := (Moves.run { options := options, stores := stores } steps).supplies
    intro answer hanswer
    rw [hrun.options]
    exact (hrun.supplied answer hanswer).resolve_left (not_mem_nil)
  unfold MaySend requestTexts handle
  split
  · simp only [forall_eq]
    cases env.next with
    | some next => exact HttpResponse.wellFramed_iff _ _
    | none => exact (shows_plain _ _).framed keepAlive
  · split
    · exact shows_methodNotAllowed.governs h keepAlive
    · split
      · exact (unsized_noStore _ _).governs h keepAlive
      · have hother := (shows_plain 404 "not found").governs h keepAlive
        cases splitPath (request.path.drop h.options.routePrefix.length) with
        | none => exact hother
        | some parts =>
          rcases parts with
            _ | ⟨application, _ | ⟨stream, _ | ⟨resource, _ | ⟨_, _⟩⟩⟩⟩
          · exact hother
          · exact hother
          · exact hother
          · exact governs_serveStream hpast env request application stream resource keepAlive
          · exact hother

/-- A bare line feed in the query passes the parser, and the redirect to a
session writes it into the head: the line it starts there is the client's own. -/
theorem injected_header_line :
    let bytes := textBytes
      "GET /hls/live/cam/index.m3u8?a=\nX-Injected:1 HTTP/1.1\r\n\r\n"
    let accepted := acceptHead {} [] bytes 53
    let request := (accepted.toOption.getD ({}, 0)).1
    let env : Environment :=
      { hmacSha256Hex := fun _ _ => [], mintedSession := List.replicate 32 0x61 }
    let h := registerStream { options := { enablePlaybackSessions := true } }
      "live" "cam" (some 0)
    find headEnd bytes = some 53 ∧ accepted.isOk ∧ MaySend env h request (handle env h request).2 ∧
      (find "\nX-Injected:1"
        (serializeResponseHead (handle env h request).2 true)).isSome ∧
      ¬ (handle env h request).2.WellFramed true := by
  refine ⟨?_, ?_, maySend_of_ready ?_ ?_, ?_, ?_⟩
  all_goals decide +kernel

end HlsHttpHandler

end RtmpCore.Hls
