namespace TiledSurface

abbrev Handle : Type := Nat

/-- A handle is written as its number behind a hash sign. -/
def Handle.text (handle : Handle) : String := s!"#{handle}"

end TiledSurface
