import RtmpCore.Settings.Config

/-!
# Saving settings

The administrator's updates are put into the configuration file: the file is read
into a mapping, the updates are made in it, and it is written anew.  The new file
replaces the old one only if it can be loaded.

The texts of the settings page and the answer made for it are left out, and a
write to the new file does not fail once it is open.
-/

namespace RtmpCore.Settings

open RtmpCore.Core Text

inductive SettingType where
  | string | bool | u16 | u32 | u64 | durationMs | percent
deriving DecidableEq

/-- The settings that may be updated, in the order in which they are written. -/
def settingsSchema : List (String × SettingType) :=
  [("rtmp_bind_address", .string), ("rtmp_port", .u16), ("api_bind_address", .string),
    ("api_port", .u16), ("public_rtmp_hostname", .string), ("worker_ring_count", .u32),
    ("max_worker_ring_count", .u32), ("worker_cpu_pinning_enabled", .bool),
    ("transcode_cpu_reservation_percent", .percent), ("ring_queue_depth", .u32),
    ("completion_batch_size", .u32), ("submission_batch_size", .u32),
    ("enable_multishot_accept", .bool), ("enable_multishot_recv", .bool),
    ("enable_registered_buffers", .bool), ("enable_provided_buffer_ring", .bool),
    ("enable_send_zero_copy", .bool), ("enable_sqpoll", .bool), ("sqpoll_idle_ms", .u32),
    ("registered_buffer_count", .u32), ("registered_buffer_size", .u32),
    ("provided_buffer_count", .u32), ("provided_buffer_size", .u32), ("maximum_connections", .u32),
    ("maximum_connections_per_ip", .u32), ("maximum_publishers", .u32),
    ("maximum_viewers_per_stream", .u32), ("input_chunk_size", .u32), ("output_chunk_size", .u32),
    ("maximum_rtmp_message_size", .u32), ("handshake_timeout", .durationMs),
    ("authentication_timeout", .durationMs), ("idle_timeout", .durationMs),
    ("write_timeout", .durationMs), ("publisher_inactivity_timeout", .durationMs),
    ("gop_cache_max_duration", .durationMs), ("gop_cache_max_bytes", .u64),
    ("gop_cache_max_packets", .u32), ("subscriber_queue_max_bytes", .u64),
    ("subscriber_queue_max_packets", .u32), ("recording_enabled", .bool),
    ("recording_directory", .string), ("recording_max_size", .u64),
    ("recording_queue_max_bytes", .u64), ("enable_hls_fast_join", .bool),
    ("hls_high_scale_mode", .bool), ("edge_viewer_stats_path", .string), ("database_type", .string),
    ("database_connection", .string), ("token_signing_secret", .string),
    ("api_authentication_secret", .string), ("log_level", .string), ("metrics_enabled", .bool)]

def settings : List (Bytes × SettingType) :=
  settingsSchema.map fun setting => (textBytes setting.1, setting.2)

namespace Codec

/-- The editor's mapping: of several lines for one key the last counts. -/
def parseFlatMapping (text : Bytes) : Mapping :=
  (assignments text).foldl (fun out entry => out.insert entry.1 entry.2) ∅

def heading : Bytes :=
  "# Managed by the StreamForge admin Settings page.\n" ++
    textBytes ("# Comments and key ordering are not preserved across a save " ++
      "from that page.\n")

def settingLine (entry : Bytes × Bytes) : Bytes := entry.1 ++ ": \"" ++ entry.2 ++ "\"\n"

/-- The settings in the order of the schema, and then whatever else there is. -/
def ordered (values : Mapping) : List (Bytes × Bytes) :=
  settings.filterMap (fun setting =>
      (values.lookup setting.1).map fun value => (setting.1, value)) ++
    (values.entries.filter fun entry =>
      !settings.any fun setting => setting.1 = entry.1).map fun entry => (entry.1, entry.2)

def serializeFlatMapping (values : Mapping) : Bytes :=
  heading ++ (ordered values).flatMap settingLine

end Codec

/-- Bytes as they stand in a message. -/
def asText (bytes : Bytes) : String := String.ofList (bytes.map fun b => Char.ofNat b.toNat)

/-- A duration without a unit is a number of milliseconds. -/
def withUnit (key value : Bytes) : Bytes :=
  if settings.lookup key = some .durationMs ∧ value ≠ [] ∧ value.all isDecimal then value ++ "ms"
  else value

def mergeUpdate (merged : Mapping) (update : (_ : Bytes) × Bytes) : Except Error Mapping :=
  if (settings.lookup update.1).isNone then
    .error ⟨.invalidConfiguration, .configuration, "unknown setting: " ++ asText update.1⟩
  else .ok (merged.insert update.1 (withUnit update.1 update.2))

/-- Whether the new file can be opened, and whether it can replace the old one. -/
structure Disk where
  opensTemp : Bool
  renames : Bool

/-- The configuration that was checked and the text of the file that has replaced
the old one. -/
structure Saved where
  config : ServerConfig
  text : Bytes

def applySettingsUpdates (env : Bytes → Option Bytes) (disk : Disk)
    (path : String) (file : Option Bytes) (updates : Mapping) : Except Error Saved :=
  match file with
  | none => .error ⟨.missingConfiguration, .configuration, "config file not found: " ++ path⟩
  | some existing => do
      let merged ← updates.entries.foldlM mergeUpdate (Codec.parseFlatMapping existing)
      let temp := path ++ ".tmp"
      if !disk.opensTemp then
        .error ⟨.unknown, .internal, "could not open " ++ temp ++ " for writing"⟩
      else
        let text := Codec.serializeFlatMapping merged
        let config ← loadConfig env temp (some text)
        if !disk.renames then
          .error ⟨.unknown, .internal, "could not replace " ++ path ++ " with validated settings"⟩
        else .ok ⟨config, text⟩

end RtmpCore.Settings
