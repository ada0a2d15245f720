import TiledSurface.Driver.Basic

namespace TiledSurface

def Cache.Recipe.summary : Cache.Recipe → String
  | .bulk => "Bulk"
  | .perLine lineBytes delay =>
    s!"PerLine \x7b line_bytes: {lineBytes}, delay_us: {delay} \x7d"

def Version.summary (version : Version) : String :=
  s!"HwVersion \x7b major: {version.major}, minor: {version.minor} \x7d"

def Driver.summary (d : Driver) : String :=
  s!"UbwcpDriver \x7b version: {d.engine.version.summary}, " ++
  s!"height_unit: {d.lengthUnit.name}, cache_flush: {d.recipe.summary}, " ++
  s!"surfaces: {d.surfaces.size}, .. \x7d"

end TiledSurface
