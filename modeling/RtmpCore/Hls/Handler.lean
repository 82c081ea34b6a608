import RtmpCore.Hls.SegmentStore
import RtmpCore.Http.Deferred

/-!
# The HLS handler

The handler of the HTTP server that serves playlists, segments and keys.  It
keeps one entry for each stream, with the store that is registered for the
stream, the renditions and the playlist requests that wait for the live edge.

Entries, stores and postponed responses are shared objects, and are referred to
by number.  The update notifier of a store refers to the entry for which it was
installed.  What comes from outside (clocks, random session identities, the
keyed hash, the gate for disabled streams and the next handler) is an argument.
`resolutions` records the responses that were supplied first to postponed
requests; it is not read.  Counters and the tracking of viewers are left out.
-/

namespace RtmpCore.Hls

open RtmpCore.Core Text Http Function

structure HlsHttpOptions where
  routePrefix : Bytes := "/hls"
  requirePlaybackToken : Bool := false
  tokenSigningSecret : Bytes := []
  edgeFetchSecret : Bytes := []
  edgeFetchHeader : Bytes := "x-edge-token"
  enablePlaybackSessions : Bool := false
  enableSharedPlaylistCache : Bool := false
  propagateQueryToPlaylistUris : Bool := true
  playlistCacheControl : Bytes := "no-cache, max-age=0"
  segmentCacheControl : Bytes := "public, max-age=31536000, immutable"
  masterCacheControl : Bytes := "public, max-age=60"
  enableRangeRequests : Bool := true
  corsAllowOrigin : Bytes := "*"
  viewerCookieName : Bytes := "rtmp_viewer_id"
  viewerCookieMaxAge : ℤ := 24 * 60 * 60
  viewerCookieSecure : Bool := false
  enableFastJoin : Bool := false
  enableLowLatency : Bool := false
  maxBlockedRequestsPerStream : ℕ := 20000
  enableIframePlaylists : Bool := true
  keyCacheControl : Bytes := "private, no-store"
deriving DecidableEq

/-- A shared playlist must not hold the query of one viewer. -/
def HlsHttpOptions.normalized (options : HlsHttpOptions) : HlsHttpOptions :=
  if options.enableSharedPlaylistCache then { options with propagateQueryToPlaylistUris := false }
  else options

/-- What a call finds outside of the handler. -/
structure Environment where
  hmacSha256Hex : Bytes → Bytes → Bytes
  unixNow : ℤ := 0
  now : ℕ := 0
  mintedSession : Bytes := []
  enabledChecker : Option (Bytes → Bytes → Bool) := none
  next : Option (HttpRequest → HttpResponse) := none

structure ContentKey where
  id : Bytes
  bytes : Bytes
deriving DecidableEq

structure SegmentEncryptor where
  enabled : Bool := false
  keys : List ContentKey := []
deriving DecidableEq

/-- A playlist request that waits for a position on the live edge. -/
structure PlaylistWaiter where
  sequence : UInt64
  partIndex : ℤ
  childQuery : Bytes
  deferred : ℕ
deriving DecidableEq

structure StreamEntry where
  store : Option ℕ := none
  renditions : Option (List Rendition) := none
  encryptor : Option SegmentEncryptor := none
  waiters : List PlaylistWaiter := []
deriving DecidableEq

structure HlsHttpHandler where
  options : HlsHttpOptions := {}
  streams : AList (fun _ : Bytes => ℕ) := ∅
  entries : ℕ → StreamEntry := fun _ => {}
  nextEntry : ℕ := 0
  stores : ℕ → SegmentStore := fun _ => {}
  notifiers : ℕ → Option ℕ := fun _ => none
  deferrals : ℕ → DeferredResponse := fun _ => {}
  timeoutResponses : ℕ → HttpResponse := fun _ => {}
  nextDeferral : ℕ := 0
  resolutions : List (ℕ × HttpResponse) := []

/-! ## Responses -/

def setHeader (response : HttpResponse) (name : String) (value : Bytes) : HttpResponse :=
  { response with
    headers := response.headers.filter (·.1 ≠ textBytes name) ++ [(textBytes name, value)] }

def plain (status : ℕ) (body : String) : HttpResponse where
  status
  contentType := "text/plain"
  body := textBytes body

def noStore (response : HttpResponse) : HttpResponse :=
  setHeader response "Cache-Control" "no-store"

def kContentTypeM3u8 : Bytes := "application/vnd.apple.mpegurl"

def kContentTypeMpegTs : Bytes := "video/mp2t"

def kContentTypeKey : Bytes := "application/octet-stream"

namespace HlsHttpOptions

def allowOrigin (options : HlsHttpOptions) (response : HttpResponse) : HttpResponse :=
  if options.corsAllowOrigin = [] then response
  else setHeader response "Access-Control-Allow-Origin" options.corsAllowOrigin

def decorate (options : HlsHttpOptions) (response : HttpResponse)
    (cacheControl : Bytes) : HttpResponse :=
  let response := setHeader response "Cache-Control" cacheControl
  let response :=
    if options.corsAllowOrigin = [] then response
    else
      setHeader (options.allowOrigin response) "Access-Control-Expose-Headers"
        "Content-Length,Content-Range"
  if options.enableRangeRequests then setHeader response "Accept-Ranges" "bytes"
  else response

end HlsHttpOptions

/-! ## Playback tokens -/

def signingInput (application name : Bytes) (expiresAt : ℤ) : Bytes :=
  application ++ 0x3A :: name ++ 0x3A :: intText expiresAt

def signToken (hmac : Bytes → Bytes → Bytes)
    (secret application name : Bytes) (expiresAt : ℤ) : Bytes :=
  hmac secret (signingInput application name expiresAt)

def verifyToken (hmac : Bytes → Bytes → Bytes)
    (secret application name token : Bytes) (expiresAt now : ℤ) : Bool :=
  signToken hmac secret application name expiresAt = token && decide (now ≤ expiresAt)

/-- The token of a query is good for the stream. -/
def authorized (env : Environment) (options : HlsHttpOptions)
    (query application stream : Bytes) : Bool :=
  if options.requirePlaybackToken = false then true
  else
    let params := parseQuery query
    match params.lookup (textBytes "token"), params.lookup (textBytes "expires") with
    | some token, some expires =>
      match leadingInt64 expires with
      | none => false
      | some expiresAt =>
        verifyToken env.hmacSha256Hex options.tokenSigningSecret application
          stream token expiresAt env.unixNow
    | _, _ => false

namespace HlsHttpHandler

/-! ## The registry -/

variable (env : Environment) (h : HlsHttpHandler) (options : HlsHttpOptions) (request : HttpRequest)
  (application stream query : Bytes) (store : SegmentStore) (renditions : List Rendition)
  (resource : Bytes)

def streamKey : Bytes := application ++ slash :: stream

def findEntry : Option ℕ := h.streams.lookup (streamKey application stream)

def findOrCreateEntry : HlsHttpHandler × ℕ :=
  match h.findEntry application stream with
  | some e => (h, e)
  | none =>
    ({ h with
        streams := h.streams.insert (streamKey application stream) h.nextEntry
        entries := update h.entries h.nextEntry {}
        nextEntry := h.nextEntry + 1 }, h.nextEntry)

def setEntry (e : ℕ) (entry : StreamEntry) : HlsHttpHandler :=
  { h with entries := update h.entries e entry }

def setStore (σ : ℕ) (store : SegmentStore) : HlsHttpHandler :=
  { h with stores := update h.stores σ store }

/-- A new store replaces the one of an entry that is there already. -/
def registerStream (store : Option ℕ) : HlsHttpHandler :=
  let (h, e) := h.findOrCreateEntry application stream
  let h := h.setEntry e { h.entries e with store }
  match store with
  | some σ =>
    if h.options.enableLowLatency then { h with notifiers := update h.notifiers σ (some e) }
    else h
  | none => h

def setEncryptor (encryptor : Option SegmentEncryptor) : HlsHttpHandler :=
  let (h, e) := h.findOrCreateEntry application stream
  h.setEntry e { h.entries e with encryptor }

def setRenditions : HlsHttpHandler :=
  let (h, e) := h.findOrCreateEntry application stream
  h.setEntry e { h.entries e with renditions := some renditions }

def findStream : Option ℕ := (h.findEntry application stream).bind fun e => (h.entries e).store

/-! ## Postponed playlists -/

/-- Supply the response to a postponed request. -/
def resolve (h : HlsHttpHandler) (d : ℕ) (response : HttpResponse) : HlsHttpHandler :=
  { h with
    deferrals := update h.deferrals d ((h.deferrals d).resolve response).1
    resolutions :=
      if (h.deferrals d).resolved = true ∨ (h.deferrals d).delivered = true then h.resolutions
      else h.resolutions ++ [(d, response)] }

/-- The waiters leave an entry, and all of them are given the same answer. -/
def dismissWaiters (e : ℕ) (response : HttpResponse) : HlsHttpHandler :=
  let entry := h.entries e
  entry.waiters.foldl (fun h waiter => h.resolve waiter.deferred response)
    (h.setEntry e { entry with waiters := [] })

def clearNotifier (store : Option ℕ) : HlsHttpHandler :=
  match store with
  | some σ => { h with notifiers := update h.notifiers σ none }
  | none => h

def unregisterStream : HlsHttpHandler :=
  match h.findEntry application stream with
  | none => h
  | some e =>
    let h := { h with streams := h.streams.erase (streamKey application stream) }
    (h.clearNotifier (h.entries e).store).dismissWaiters e
      (noStore (plain 404 "stream not found"))

/-- The handler goes away: no store can call it, and everybody who waits is
told. -/
def detachStores : HlsHttpHandler :=
  let registered := h.streams.entries.map (·.2)
  let h := registered.foldl (fun h e => h.clearNotifier (h.entries e).store) h
  registered.foldl (fun h e => h.dismissWaiters e
      (noStore (plain 503 "stream is shutting down"))) h

def playlistBody (text query : Bytes) : Bytes :=
  if options.propagateQueryToPlaylistUris then appendQueryToPlaylistUris text query
  else text

def playlistResponse (text query : Bytes) : HttpResponse :=
  options.decorate
    { status := 200
      contentType := kContentTypeM3u8
      body := playlistBody options text query } options.playlistCacheControl

/-- Rendering a playlist may fill in a stall of the store. -/
def renderMediaPlaylist (now σ : ℕ) (childQuery : Bytes) : HlsHttpHandler × HttpResponse :=
  let (store, text) := (h.stores σ).playlist now []
  (h.setStore σ store, playlistResponse h.options text childQuery)

/-- A waiter whose position has been reached is answered. -/
def answerWaiter (now σ : ℕ) (h : HlsHttpHandler) (waiter : PlaylistWaiter) : HlsHttpHandler :=
  let (h, response) := h.renderMediaPlaylist now σ waiter.childQuery
  h.resolve waiter.deferred response

def openWaiters (e : ℕ) : List PlaylistWaiter :=
  (h.entries e).waiters.filter fun waiter => (h.deferrals waiter.deferred).resolved = false

/-- One release pass over the waiters of an entry. -/
def releaseWaiters (now e σ : ℕ) : HlsHttpHandler :=
  let store := h.stores σ
  let reached := fun waiter : PlaylistWaiter => store.hasReached waiter.sequence waiter.partIndex
  let remaining := (h.openWaiters e).filter (!reached ·)
  ((h.openWaiters e).filter reached).foldl (answerWaiter now σ)
    (h.setEntry e { h.entries e with waiters := remaining })

/-- A store tells that its live edge has moved.  The notifier of a store that
was replaced does nothing. -/
def notify (now σ : ℕ) : HlsHttpHandler :=
  match h.notifiers σ with
  | none => h
  | some e => if (h.entries e).store = some σ then h.releaseWaiters now e σ else h

/-! ## Resources -/

def fastJoinLocation (application renditionStream query : Bytes) : Bytes :=
  options.routePrefix ++ slash :: application ++ slash :: renditionStream ++ "/index.m3u8" ++
    (if query = [] then [] else questionMark :: query)

/-- Where a fast join is sent: the first rendition, if its URI has the fixed
shape. -/
def fastJoinStream : Bytes :=
  if options.enableFastJoin then
    (renditions.head?.map fun r => renditionStreamFromUri r.uri).getD []
  else []

def redirect (location : Bytes) : HttpResponse :=
  let response := setHeader
    { status := 302, contentType := "text/plain" } "Location" location
  options.allowOrigin
    (setHeader response "Cache-Control" "private, no-store")

def masterCaching : Bytes :=
  if options.enablePlaybackSessions ∧ options.enableSharedPlaylistCache = false
  then "private, no-store"
  else options.masterCacheControl

def serveMasterPlaylist (application : Bytes) : HttpResponse :=
  if renditions = [] then plain 404 "no renditions declared for this stream"
  else if fastJoinStream options renditions ≠ [] then
    redirect options (fastJoinLocation options application
      (fastJoinStream options renditions) query)
  else
    options.decorate
      { status := 200
        contentType := kContentTypeM3u8
        body := playlistBody options (buildMasterPlaylist renditions) query }
      (masterCaching options)

def serveIframePlaylist : HttpResponse := playlistResponse options (store.iframePlaylist []) query

def contentRange (start finish size : ℕ) : Bytes :=
  "bytes " ++ decimalText start ++ "-" ++ decimalText finish ++ "/" ++ decimalText size

/-- The whole of a payload, or the range of it that is asked for. -/
def servePayload (payload : Bytes) : HttpResponse :=
  let size := payload.length
  let range :=
    if options.enableRangeRequests then request.headers.lookup (textBytes "range")
    else none
  match range with
  | some header =>
    match parseRange header size with
    | some (start, finish) =>
      setHeader (options.decorate
          { status := 206
            contentType := kContentTypeMpegTs
            sharedBody := payload
            sharedBodyOffset := start
            sharedBodyLength := (finish - start + 1) % 2 ^ 64 }
          options.segmentCacheControl)
        "Content-Range" (contentRange start finish size)
    | none =>
      setHeader
        { status := 416, contentType := "text/plain", body := "requested range not satisfiable" }
        "Content-Range" (textBytes "bytes */" ++ decimalText size)
  | none =>
    options.decorate
      { status := 200
        contentType := kContentTypeMpegTs
        sharedBody := payload
        sharedBodyLength := size } options.segmentCacheControl

def serveSegment (name : Bytes) : HttpResponse :=
  match store.findSegment name with
  | some segment => servePayload options request segment.data
  | none =>
    match store.findPart name with
    | some part => servePayload options request part.data
    | none => noStore (plain 404 "segment not found")

def kKeyResourcePrefix : Bytes := "key-"

def kKeyResourceSuffix : Bytes := ".bin"

def isKeyResource : Bool :=
  decide (kKeyResourcePrefix.length + kKeyResourceSuffix.length < resource.length) &&
    kKeyResourcePrefix.isPrefixOf resource && endsWith resource ".bin"

/-- Only a key that is held is given out; none is made on demand. -/
def serveKey (encryptor : Option SegmentEncryptor) (resource : Bytes) : HttpResponse :=
  match encryptor with
  | none => noStore (plain 404 "stream is not encrypted")
  | some encryptor =>
    if encryptor.enabled = false then noStore (plain 404 "stream is not encrypted")
    else
      let id := (resource.drop kKeyResourcePrefix.length).take
        (resource.length - kKeyResourcePrefix.length - kKeyResourceSuffix.length)
      match encryptor.keys.find? (·.id = id) with
      | none => noStore (plain 404 "key not found")
      | some key =>
        options.allowOrigin (setHeader
            { status := 200
              contentType := kContentTypeKey
              body := key.bytes } "Cache-Control" options.keyCacheControl)

/-! ## Blocking reload -/

/-- The cast of an unsigned to a signed 64-bit number. -/
def castInt64 (value : ℕ) : ℤ := if value < 2 ^ 63 then value else value - 2 ^ 64

/-- The position a request asks for.  A part that is no number counts as
none. -/
def wantedPosition : Option (UInt64 × ℤ) :=
  let params := parseQuery query
  ((params.lookup kBlockingMsnParam).bind parseUnsigned).map fun sequence =>
    (.ofNat sequence, match (params.lookup kBlockingPartParam).bind parseUnsigned with
      | some part => castInt64 part
      | none => -1)

/-- The position for which a request has to wait. -/
def blockedOn : Option (UInt64 × ℤ) :=
  if options.enableLowLatency = true ∧ request.method = "GET" then
    (wantedPosition request.query).filter fun (sequence, part) => !store.hasReached sequence part
  else none

def childQuery : Bytes :=
  if options.propagateQueryToPlaylistUris then queryWithoutBlockingParams query
  else []

/-- Put a request into the list of waiters, if there is room. -/
def park (now e σ : ℕ) (position : UInt64 × ℤ) (query : Bytes) : HlsHttpHandler × Option ℕ :=
  let child := childQuery h.options query
  let (h, timeoutResponse) := h.renderMediaPlaylist now σ child
  let entry := h.entries e
  if entry.waiters.length < h.options.maxBlockedRequestsPerStream then
    let d := h.nextDeferral
    let waiter : PlaylistWaiter := ⟨position.1, position.2, child, d⟩
    ({ h.setEntry e { entry with waiters := entry.waiters ++ [waiter] } with
        deferrals := update h.deferrals d {}
        timeoutResponses := update h.timeoutResponses d timeoutResponse
        nextDeferral := d + 1 }, some d)
  else (h, none)

/-- A media playlist, or a response that is postponed until the live edge has
moved.  Over the ceiling a request is answered at once. -/
def serveMediaResource (now e σ : ℕ) (request : HttpRequest) : HlsHttpHandler × HttpResponse :=
  match blockedOn h.options request (h.stores σ) with
  | some position =>
    match h.park now e σ position request.query with
    | (h, some d) => (h.releaseWaiters now e σ, { deferred := some d })
    | (h, none) => h.renderMediaPlaylist now σ request.query
  | none => h.renderMediaPlaylist now σ request.query

/-! ## Playback sessions -/

def isMediaPlaylistName : Bool := endsWith resource ".m3u8"

def hasSession : Bool :=
  let params := parseQuery query
  let session := params.lookup kPlaybackSessionParam
  let stream := params.lookup kPlaybackStreamParam
  session.any isPlaybackSession && stream.any (· ≠ []) && (!options.enableSharedPlaylistCache ||
      params.lookup kSharedCacheParam = some (textBytes "1"))

/-- Playlists are served to sessions only, if there are sessions. -/
def needsSession : Bool :=
  options.enablePlaybackSessions && isMediaPlaylistName resource && !hasSession options query

def viewerCookie (session : Bytes) : Bytes :=
  options.viewerCookieName ++ equalsSign :: session ++ "; Path=" ++
    options.routePrefix ++ "; HttpOnly; SameSite=" ++
    textBytes (if options.corsAllowOrigin ≠ [] ∧ options.viewerCookieSecure
      then "None" else "Lax") ++
    "; Max-Age=" ++ intText options.viewerCookieMaxAge ++
    (if options.viewerCookieSecure then textBytes "; Secure" else [])

def sessionQuery (query stream session : Bytes) : Bytes :=
  let kept := queryWithoutSessionParams query
  (if kept = [] then [] else kept ++ [ampersand]) ++
    kPlaybackSessionParam ++ equalsSign :: session ++
    ampersand :: kPlaybackStreamParam ++ equalsSign :: percentEncode stream ++
    (if options.enableSharedPlaylistCache then ampersand :: kSharedCacheParam ++ "=1"
    else [])

/-- Send the player to the same resource with a session.  A viewer who returns
is known by a cookie. -/
def sessionRedirect : HttpResponse :=
  let cookie := cookieValue request options.viewerCookieName
  let reuse := isPlaybackSession cookie
  let session := if reuse then cookie else env.mintedSession
  if isPlaybackSession session = false then noStore (plain 500 "playback session generator failed")
  else
    let response := redirect options (request.path ++ questionMark ::
        sessionQuery options request.query stream session)
    if reuse then response
    else setHeader response "Set-Cookie" (viewerCookie options session)

/-! ## Requests -/

def isHead : Prop := request.method = "HEAD"
deriving Decidable

/-- A response to HEAD has the length of the body, but not the body. -/
def withoutBody (response : HttpResponse) : HttpResponse :=
  if isHead request then
    { setHeader response "Content-Length" (decimalText response.payloadSize) with
      body := []
      sharedBody := []
      sharedBodyOffset := 0
      sharedBodyLength := 0 }
  else response

/-- A resource of a stream whose entry was found, with the store that was
registered when the request came. -/
def serveResource (e : ℕ) (store : Option ℕ) : HlsHttpHandler × HttpResponse :=
  if resource = "master.m3u8" then
    (h, withoutBody request (serveMasterPlaylist h.options request.query
      ((h.entries e).renditions.getD []) application))
  else
    match store with
    | none => (h, noStore (plain 404 "stream not found"))
    | some σ =>
      if resource = "iframe.m3u8" then
        if h.options.enableIframePlaylists then
          (h, withoutBody request (serveIframePlaylist h.options request.query (h.stores σ)))
        else (h, plain 404 "not found")
      else if isMediaPlaylistName resource then
        match h.serveMediaResource env.now e σ request with
        | (h, response) =>
          if response.deferred.isSome then (h, response)
          else (h, withoutBody request response)
      else if endsWith resource ".ts" then
        (h, withoutBody request (serveSegment h.options request (h.stores σ) resource))
      else if isKeyResource resource then
        (h, withoutBody request (serveKey h.options (h.entries e).encryptor resource))
      else (h, plain 404 "not found")

def serveStream : HlsHttpHandler × HttpResponse :=
  if env.enabledChecker.any (!· application stream) then (h, plain 404 "not found")
  else if authorized env h.options request.query application stream = false then
    (h, noStore (plain 403 "playback token required or invalid"))
  else
    match h.findEntry application stream with
    | none => (h, noStore (plain 404 "stream not found"))
    | some e =>
      let store := (h.entries e).store
      if resource ≠ "master.m3u8" ∧ store = none then (h, noStore (plain 404 "stream not found"))
      else if needsSession h.options request.query resource then
        (h, sessionRedirect env h.options request stream)
      else serveResource env h request application resource e store

/-- The path lies under the prefix of the handler. -/
def inPrefix (path : Bytes) : Bool :=
  options.routePrefix.isPrefixOf path && (path.length = options.routePrefix.length ||
      (path.drop options.routePrefix.length).head? = some slash)

/-- The request carries the token of an edge, if there has to be one. -/
def passesEdge : Bool :=
  options.edgeFetchSecret = [] ||
    request.headers.lookup options.edgeFetchHeader = some options.edgeFetchSecret

def methodNotAllowed : HttpResponse :=
  setHeader (plain 405 "method not allowed") "Allow" "GET, HEAD"

def handle : HlsHttpHandler × HttpResponse :=
  if inPrefix h.options request.path = false then
    (h, match env.next with
      | some next => next request
      | none => plain 404 "not found")
  else if request.method ≠ "GET" ∧ ¬ isHead request then (h, methodNotAllowed)
  else if passesEdge h.options request = false then (h, noStore (plain 403 "edge token required"))
  else
    match splitPath (request.path.drop h.options.routePrefix.length) with
    | some [application, stream, resource] => serveStream env h request application stream resource
    | _ => (h, plain 404 "not found")

end HlsHttpHandler

end RtmpCore.Hls
