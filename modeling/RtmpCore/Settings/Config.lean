import Mathlib.Data.List.AList
import RtmpCore.Core.ByteOrder
import RtmpCore.Core.Error
import RtmpCore.Support.Text

/-!
# The configuration of the server

A configuration file is a flat mapping, a line for each key.  What the file says
is overridden by the environment, read into the fields of the configuration, and
checked.  A value that cannot be read leaves the default in its place.
-/

namespace RtmpCore.Settings

open RtmpCore.Core Text

/-! ## Flat mappings -/

abbrev Mapping := AList fun _ : Bytes => Bytes

def newline : UInt8 := 0x0A

def hash : UInt8 := 0x23

def colon : UInt8 := 0x3A

/-- What is trimmed off keys and values. -/
def isSurrounding (b : UInt8) : Bool := b = 0x20 || b = 0x09 || b = 0x0D || b = 0x0A || b = 0x22

/-- A line without its comment, cut at the first colon. -/
def parseLine (line : Bytes) : Option (Bytes × Bytes) :=
  (cut colon (line.takeWhile (· ≠ hash))).bind fun (key, value) =>
    let key := trim isSurrounding key
    let value := trim isSurrounding value
    if key = [] then none else some (key, value)

/-- The keys and values of a text in the order of its lines. -/
def assignments (text : Bytes) : List (Bytes × Bytes) := (lines newline text).filterMap parseLine

namespace Config

/-- The loader's mapping: of several lines for one key the first counts. -/
def parseFlatMapping (text : Bytes) : Mapping :=
  (assignments text).foldl
    (fun out entry => if entry.1 ∈ out then out else out.insert entry.1 entry.2) ∅

end Config

/-! ## Values -/

variable (b : UInt8) (text : Bytes)

def isSpace : Bool := b = 0x20 || decide (0x09 ≤ b ∧ b ≤ 0x0D)

def isDecimal : Bool := decide (0x30 ≤ b ∧ b ≤ 0x39)

/-- `std::stoul` and `std::stoull`: blanks and a sign may stand in front, anything
may follow, and a negative number wraps around. -/
def stoull : Option UInt64 :=
  let text := text.dropWhile isSpace
  let unsigned := if text.head? = some 0x2D ∨ text.head? = some 0x2B then text.tail else text
  let digits := unsigned.takeWhile isDecimal
  let value : ℕ := digits.foldl (fun value b => 10 * value + (b.toNat - 0x30)) 0
  if digits = [] ∨ 2 ^ 64 ≤ value then none
  else if text.head? = some 0x2D then some (-value.toUInt64)
  else some value.toUInt64

def parseU32 : Option UInt32 := (stoull text).map UInt64.toUInt32

def parseU64 : Option UInt64 := stoull text

def parseBool : Option Bool :=
  if text = "true" then some true
  else if text = "false" then some false
  else none

/-- A number with its unit, in milliseconds.  The product wraps around. -/
def parseDuration : Option Int64 :=
  let digits := text.takeWhile isDecimal
  if digits = [] then none
  else
    (stoull digits).bind fun number =>
      let unit := text.dropWhile isDecimal
      if unit = "ms" then some number.toInt64
      else if unit = "s" then some (number * 1000).toInt64
      else if unit = "m" then some (number * 60000).toInt64
      else if unit = "h" then some (number * 3600000).toInt64
      else none

def toUpper : UInt8 := if 0x61 ≤ b ∧ b ≤ 0x7A then b - 0x20 else b

/-- Keys of the file may be overridden by the environment, keys that it does not
have may not. -/
def applyEnvOverrides (env : Bytes → Option Bytes) (values : Mapping)
    (key : Bytes) : Option Bytes :=
  (values.lookup key).map fun value => (env ("RTMP_SERVER_" ++ key.map toUpper)).getD value

/-! ## The configuration -/

structure ServerConfig where
  rtmpBindAddress : Bytes := "0.0.0.0"
  rtmpPort : UInt16 := 1935
  apiBindAddress : Bytes := "127.0.0.1"
  apiPort : UInt16 := 8080
  publicRtmpHostname : Bytes := []
  ringQueueDepth : UInt32 := 1024
  completionBatchSize : UInt32 := 64
  submissionBatchSize : UInt32 := 64
  workerRingCount : UInt32 := 0
  maxWorkerRingCount : UInt32 := 4096
  workerCpuPinningEnabled : Bool := false
  transcodeCpuReservationPercent : UInt32 := 0
  enableMultishotAccept : Bool := true
  enableMultishotRecv : Bool := true
  enableRegisteredBuffers : Bool := true
  enableProvidedBufferRing : Bool := true
  enableSendZeroCopy : Bool := true
  enableSqpoll : Bool := false
  sqpollIdleMs : UInt32 := 1000
  registeredBufferCount : UInt32 := 1024
  registeredBufferSize : UInt32 := 65536
  providedBufferCount : UInt32 := 4096
  providedBufferSize : UInt32 := 65536
  clientSendBufferBytes : UInt32 := 0
  clientReceiveBufferBytes : UInt32 := 0
  clientTcpNotsentLowatBytes : UInt32 := 128 * 1024
  maximumConnections : UInt32 := 0xFFFFFFFF
  maximumConnectionsPerIp : UInt32 := 0xFFFFFFFF
  maximumPublishers : UInt32 := 0xFFFFFFFF
  maximumViewersPerStream : UInt32 := 0xFFFFFFFF
  inputChunkSize : UInt32 := 128
  outputChunkSize : UInt32 := 4096
  maximumRtmpMessageSize : UInt32 := 10 * 1024 * 1024
  enableHlsFastJoin : Bool := false
  hlsTargetDurationSeconds : UInt32 := 6
  hlsLiveWindowSegments : UInt32 := 10
  hlsEdgeFetchSecret : Bytes := []
  hlsLowLatency : Bool := false
  hlsPartTargetDuration : Int64 := 333
  hlsBlockingReloadTimeout : Int64 := 9000
  hlsEncryptionEnabled : Bool := false
  hlsKeyRotationInterval : Int64 := 0
  hlsIframePlaylists : Bool := true
  dashEnabled : Bool := false
  handshakeTimeout : Int64 := 5000
  authenticationTimeout : Int64 := 5000
  idleTimeout : Int64 := 60000
  writeTimeout : Int64 := 10000
  publisherInactivityTimeout : Int64 := 30000
  gopCacheMaxDuration : Int64 := 10000
  gopCacheMaxBytes : UInt64 := 16 * 1024 * 1024
  gopCacheMaxPackets : UInt32 := 2000
  subscriberQueueMaxBytes : UInt64 := 4 * 1024 * 1024
  subscriberQueueMaxPackets : UInt32 := 512
  recordingDirectory : Bytes := "./recordings"
  recordingEnabled : Bool := false
  recordingMaxSize : UInt64 := 4 * 1024 * 1024 * 1024
  recordingQueueMaxBytes : UInt64 := 16 * 1024 * 1024
  databaseType : Bytes := "sqlite"
  databaseConnection : Bytes := "./data/rtmp.db"
  hlsHighScaleMode : Bool := true
  edgeViewerStatsPath : Bytes := "/var/www/streamforge/internal/viewer_estimate.json"
  tokenSigningSecret : Bytes := []
  apiAuthenticationSecret : Bytes := []
  logLevel : Bytes := "info"
  metricsEnabled : Bool := true

/-! ## Checks -/

def invalid (bad : Bool) (message : String) : Except Error Unit :=
  if bad then .error ⟨.invalidConfiguration, .configuration, message⟩ else .ok ()

def missing (bad : Bool) (message : String) : Except Error Unit :=
  if bad then .error ⟨.missingConfiguration, .configuration, message⟩ else .ok ()

def minSecretLength : ℕ := 32

def placeholders : List String :=
  ["CHANGE_ME", "changeme", "change_me", "secret", "password", "test", "changethis",
    "REPLACE_ME", "xxxxxxxx", "0123456789", "TODO"]

def validateSecret (value : Bytes) (name : String) : Except Error Unit := do
  missing (value = []) (name ++ " must be set")
  invalid (placeholders.any fun placeholder => value = textBytes placeholder)
    (name ++ " is a well-known placeholder value; generate a real secret")
  invalid (value.length < minSecretLength)
    (name ++ " must be at least 32 characters (generate with: openssl rand -hex 32)")
  invalid (value.all fun b => value.head? = some b)
    (name ++ " has no entropy (all characters identical)")

def checkBuffer (value : UInt32) (name : String) : Except Error Unit :=
  invalid (value ≠ 0 ∧ (value < 2048 ∨ 67108864 < value))
    (name ++ " must be 0 (kernel autotune) or between 2048 and 67108864 bytes")

/-- The live window in seconds, against which the rotation of keys is checked. -/
def ServerConfig.windowSeconds (c : ServerConfig) : Int64 :=
  (c.hlsTargetDurationSeconds.toUInt64 * c.hlsLiveWindowSegments.toUInt64).toInt64

def ServerConfig.validate (c : ServerConfig) : Except Error Unit := do
  invalid (c.rtmpPort = 0 ∨ c.apiPort = 0) "rtmp_port and api_port must be non-zero"
  invalid (c.rtmpPort = c.apiPort ∧ c.rtmpBindAddress = c.apiBindAddress)
    "rtmp_port and api_port must differ when bind addresses match"
  invalid (c.ringQueueDepth = 0) "ring_queue_depth must be positive"
  invalid (c.completionBatchSize = 0 ∨ c.completionBatchSize > c.ringQueueDepth ∨
      c.submissionBatchSize = 0 ∨ c.submissionBatchSize > c.ringQueueDepth)
    "completion/submission batch sizes must be positive and no larger than ring_queue_depth"
  invalid (c.maxWorkerRingCount = 0) "max_worker_ring_count must be positive"
  invalid (c.workerRingCount > c.maxWorkerRingCount)
    "worker_ring_count must not exceed max_worker_ring_count"
  invalid (c.maximumConnections = 0 ∨ c.maximumConnectionsPerIp = 0)
    "connection limits must be positive"
  invalid (c.inputChunkSize = 0 ∨ c.outputChunkSize = 0) "chunk sizes must be positive"
  invalid (c.transcodeCpuReservationPercent > 100)
    "transcode_cpu_reservation_percent must be between 0 and 100"
  checkBuffer c.clientSendBufferBytes "client_send_buffer_bytes"
  checkBuffer c.clientReceiveBufferBytes "client_receive_buffer_bytes"
  invalid (c.clientTcpNotsentLowatBytes ≠ 0 ∧ c.clientSendBufferBytes ≠ 0 ∧
      c.clientTcpNotsentLowatBytes > c.clientSendBufferBytes)
    "client_tcp_notsent_lowat_bytes must not exceed client_send_buffer_bytes"
  invalid (c.hlsTargetDurationSeconds < 2 ∨ c.hlsTargetDurationSeconds > 30)
    "hls_target_duration_seconds must be between 2 and 30"
  invalid (c.hlsLiveWindowSegments < 3 ∨ c.hlsLiveWindowSegments > 60)
    "hls_live_window_segments must be between 3 and 60"
  invalid (c.hlsEncryptionEnabled ∧ c.hlsKeyRotationInterval > 0 ∧
      c.hlsKeyRotationInterval < c.windowSeconds)
    ("hls_key_rotation_interval must be at least the live window " ++
      "(hls_target_duration_seconds x hls_live_window_segments) so segments " ++
      "still in the playlist keep a key that decrypts them")
  invalid (c.hlsEdgeFetchSecret ≠ [] ∧ c.hlsEdgeFetchSecret.length < 16)
    ("hls_edge_fetch_secret must be at least 16 characters when set " ++
      "(generate with: openssl rand -hex 32)")
  invalid (c.maximumRtmpMessageSize = 0) "maximum_rtmp_message_size must be positive"
  invalid (c.maximumRtmpMessageSize > 67108864)
    "maximum_rtmp_message_size exceeds the supported maximum (64 MiB)"
  invalid (c.maximumPublishers = 0 ∨ c.maximumViewersPerStream = 0)
    "maximum_publishers and maximum_viewers_per_stream must be positive"
  invalid (c.gopCacheMaxBytes = 0 ∨ c.gopCacheMaxPackets = 0)
    "GOP cache bounds must be positive"
  invalid (c.subscriberQueueMaxBytes = 0 ∨ c.subscriberQueueMaxPackets = 0)
    "subscriber queue bounds must be positive"
  invalid (c.idleTimeout ≤ 0 ∨ c.handshakeTimeout ≤ 0)
    "idle_timeout and handshake_timeout must be positive"
  missing (c.recordingEnabled ∧ c.recordingDirectory = [])
    "recording_directory is required when recording_enabled is true"
  missing (c.databaseConnection = []) "database_connection must be set"
  validateSecret c.tokenSigningSecret "token_signing_secret"
  validateSecret c.apiAuthenticationSecret "api_authentication_secret"
  invalid (c.tokenSigningSecret = c.apiAuthenticationSecret)
    "token_signing_secret and api_authentication_secret must be different values"

/-! ## Loading -/

section Fields

variable (values : Bytes → Option Bytes)

/-- The value of a key, if there is one that can be read. -/
def field {α : Type} (parse : Bytes → Option α) (key : String) (default : α) : α :=
  ((values (textBytes key)).bind parse).getD default

def str := field values some
def u32 := field values parseU32
def u64 := field values parseU64
def boolean := field values parseBool
def duration := field values parseDuration

def port (key : String) (default : UInt16) : UInt16 :=
  field values (fun text => (parseU32 text).map UInt32.toUInt16) key default

/-- The fields that the values set. -/
def configOf : ServerConfig :=
  let c : ServerConfig := {}
  let rotation := duration values "hls_key_rotation_interval" 0
  { rtmpBindAddress := str values "rtmp_bind_address" c.rtmpBindAddress
    apiBindAddress := str values "api_bind_address" c.apiBindAddress
    publicRtmpHostname := str values "public_rtmp_hostname" c.publicRtmpHostname
    rtmpPort := port values "rtmp_port" c.rtmpPort
    apiPort := port values "api_port" c.apiPort
    ringQueueDepth := u32 values "ring_queue_depth" c.ringQueueDepth
    completionBatchSize := u32 values "completion_batch_size" c.completionBatchSize
    submissionBatchSize := u32 values "submission_batch_size" c.submissionBatchSize
    workerRingCount := u32 values "worker_ring_count" c.workerRingCount
    maxWorkerRingCount := u32 values "max_worker_ring_count" c.maxWorkerRingCount
    workerCpuPinningEnabled := boolean values "worker_cpu_pinning_enabled" c.workerCpuPinningEnabled
    transcodeCpuReservationPercent :=
      u32 values "transcode_cpu_reservation_percent" c.transcodeCpuReservationPercent
    enableMultishotAccept := boolean values "enable_multishot_accept" c.enableMultishotAccept
    enableMultishotRecv := boolean values "enable_multishot_recv" c.enableMultishotRecv
    enableRegisteredBuffers := boolean values "enable_registered_buffers" c.enableRegisteredBuffers
    enableProvidedBufferRing :=
      boolean values "enable_provided_buffer_ring" c.enableProvidedBufferRing
    enableSendZeroCopy := boolean values "enable_send_zero_copy" c.enableSendZeroCopy
    enableSqpoll := boolean values "enable_sqpoll" c.enableSqpoll
    sqpollIdleMs := u32 values "sqpoll_idle_ms" c.sqpollIdleMs
    registeredBufferCount := u32 values "registered_buffer_count" c.registeredBufferCount
    registeredBufferSize := u32 values "registered_buffer_size" c.registeredBufferSize
    providedBufferCount := u32 values "provided_buffer_count" c.providedBufferCount
    providedBufferSize := u32 values "provided_buffer_size" c.providedBufferSize
    clientSendBufferBytes := u32 values "client_send_buffer_bytes" c.clientSendBufferBytes
    clientReceiveBufferBytes := u32 values "client_receive_buffer_bytes" c.clientReceiveBufferBytes
    clientTcpNotsentLowatBytes :=
      u32 values "client_tcp_notsent_lowat_bytes" c.clientTcpNotsentLowatBytes
    maximumConnections := u32 values "maximum_connections" c.maximumConnections
    maximumConnectionsPerIp := u32 values "maximum_connections_per_ip" c.maximumConnectionsPerIp
    maximumPublishers := u32 values "maximum_publishers" c.maximumPublishers
    maximumViewersPerStream := u32 values "maximum_viewers_per_stream" c.maximumViewersPerStream
    inputChunkSize := u32 values "input_chunk_size" c.inputChunkSize
    outputChunkSize := u32 values "output_chunk_size" c.outputChunkSize
    maximumRtmpMessageSize := u32 values "maximum_rtmp_message_size" c.maximumRtmpMessageSize
    enableHlsFastJoin := boolean values "enable_hls_fast_join" c.enableHlsFastJoin
    hlsTargetDurationSeconds := u32 values "hls_target_duration_seconds" c.hlsTargetDurationSeconds
    hlsLiveWindowSegments := u32 values "hls_live_window_segments" c.hlsLiveWindowSegments
    hlsEdgeFetchSecret := str values "hls_edge_fetch_secret" c.hlsEdgeFetchSecret
    hlsLowLatency := boolean values "hls_low_latency" c.hlsLowLatency
    hlsPartTargetDuration := duration values "hls_part_target_duration" c.hlsPartTargetDuration
    hlsBlockingReloadTimeout :=
      duration values "hls_blocking_reload_timeout" c.hlsBlockingReloadTimeout
    hlsEncryptionEnabled := boolean values "hls_encryption_enabled" c.hlsEncryptionEnabled
    -- the one duration that is kept in seconds
    hlsKeyRotationInterval := if rotation ≠ 0 then rotation / 1000 else c.hlsKeyRotationInterval
    hlsIframePlaylists := boolean values "hls_iframe_playlists" c.hlsIframePlaylists
    dashEnabled := boolean values "dash_enabled" c.dashEnabled
    handshakeTimeout := duration values "handshake_timeout" c.handshakeTimeout
    authenticationTimeout := duration values "authentication_timeout" c.authenticationTimeout
    idleTimeout := duration values "idle_timeout" c.idleTimeout
    writeTimeout := duration values "write_timeout" c.writeTimeout
    publisherInactivityTimeout :=
      duration values "publisher_inactivity_timeout" c.publisherInactivityTimeout
    gopCacheMaxDuration := duration values "gop_cache_max_duration" c.gopCacheMaxDuration
    gopCacheMaxBytes := u64 values "gop_cache_max_bytes" c.gopCacheMaxBytes
    gopCacheMaxPackets := u32 values "gop_cache_max_packets" c.gopCacheMaxPackets
    subscriberQueueMaxBytes := u64 values "subscriber_queue_max_bytes" c.subscriberQueueMaxBytes
    subscriberQueueMaxPackets :=
      u32 values "subscriber_queue_max_packets" c.subscriberQueueMaxPackets
    recordingDirectory := str values "recording_directory" c.recordingDirectory
    recordingEnabled := boolean values "recording_enabled" c.recordingEnabled
    recordingMaxSize := u64 values "recording_max_size" c.recordingMaxSize
    recordingQueueMaxBytes := u64 values "recording_queue_max_bytes" c.recordingQueueMaxBytes
    databaseType := str values "database_type" c.databaseType
    databaseConnection := str values "database_connection" c.databaseConnection
    hlsHighScaleMode := boolean values "hls_high_scale_mode" c.hlsHighScaleMode
    edgeViewerStatsPath := str values "edge_viewer_stats_path" c.edgeViewerStatsPath
    tokenSigningSecret := str values "token_signing_secret" c.tokenSigningSecret
    apiAuthenticationSecret := str values "api_authentication_secret" c.apiAuthenticationSecret
    logLevel := str values "log_level" c.logLevel
    metricsEnabled := boolean values "metrics_enabled" c.metricsEnabled }

end Fields

/-- The file at a path, if there is one. -/
def loadConfig (env : Bytes → Option Bytes) (path : String)
    (file : Option Bytes) : Except Error ServerConfig :=
  match file with
  | none => .error ⟨.missingConfiguration, .configuration, "config file not found: " ++ path⟩
  | some text => do
      let config := configOf (applyEnvOverrides env (Config.parseFlatMapping text))
      config.validate
      return config

end RtmpCore.Settings
