import AdbMobile.Lib.ByteString

/-!
# Feature sets

A feature set is a list of names (`transport.cpp`). It travels as a comma-separated string, in a
banner and in the server's answer to a `features` query.
-/

namespace AdbMobile

open ByteString

/-- A list of feature names, in the order that they were sent in. -/
abbrev FeatureSet := List Bytes

/-- The name of the delayed-acknowledgement feature. -/
def kFeatureDelayedAck : Bytes := lit "delayed_ack"

/-- The features that this build supports, where `delayedAckEnabled` is `delayed_ack_enabled()`. -/
def supportedFeatures (delayedAckEnabled : Bool) : FeatureSet :=
  [lit "shell_v2", lit "cmd", lit "stat_v2", lit "ls_v2", lit "fixed_push_mkdir", lit "apex",
    lit "abb", lit "fixed_push_symlink_timestamp", lit "abb_exec", lit "remount_shell",
    lit "track_app", lit "sendrecv_v2", lit "sendrecv_v2_brotli", lit "sendrecv_v2_lz4",
    lit "sendrecv_v2_zstd", lit "sendrecv_v2_dry_run_send", lit "openscreen_mdns",
    lit "devicetracker_proto_format", lit "devraw", lit "app_info", lit "server_status"] ++
  if delayedAckEnabled then [kFeatureDelayedAck] else []

/-- `StringToFeatureSet`. -/
def stringToFeatureSet (features_string : Bytes) : FeatureSet :=
  if features_string = [] then [] else split 44 features_string

/-- `CanUseFeature`. -/
def canUseFeature (delayedAckEnabled : Bool) (featureSet : FeatureSet) (feature : Bytes) : Bool :=
  featureSet.contains feature && (supportedFeatures delayedAckEnabled).contains feature

end AdbMobile
