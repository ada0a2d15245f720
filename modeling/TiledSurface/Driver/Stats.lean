namespace TiledSurface

structure Stats where
  tracked : UInt64 := 0
  untracked : UInt64 := 0
  configured : UInt64 := 0
  misconfigured : UInt64 := 0
  locks : UInt64 := 0
  unlocks : UInt64 := 0
  programmed : UInt64 := 0
  flushFailures : UInt64 := 0
  onlines : UInt64 := 0
  offlines : UInt64 := 0
  offlineFailures : UInt64 := 0
  deriving DecidableEq

end TiledSurface
