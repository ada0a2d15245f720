namespace TiledSurface

structure Version where
  major : UInt32
  minor : UInt32
  deriving DecidableEq

/-- A revision is written as its two numbers around a point. -/
def Version.text (version : Version) : String := s!"{version.major}.{version.minor}"

end TiledSurface
