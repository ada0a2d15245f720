import TiledSurface.Attributes
import TiledSurface.Config
import TiledSurface.Json

namespace TiledSurface

namespace ImageFormat

def toJson (format : ImageFormat) : Json := .text format.name

def ofJson? (value : Json) : Option ImageFormat := do ofName? (← value.alternative?)

end ImageFormat

namespace CleaningPolicy

def toJson (policy : CleaningPolicy) : Json := .text policy.name

def ofJson? (value : Json) : Option CleaningPolicy := do ofName? (← value.alternative?)

end CleaningPolicy

namespace Handle

def toJson (handle : Handle) : Json := .integer handle

/-- Handles cross the boundary in 64 bits. -/
def ofJson? (value : Json) : Option Handle := value.below? UInt64.size

end Handle

namespace InterruptLines

def fieldNames : List String := ["read_fault", "write_fault", "encode_fault", "decode_fault"]

def toFields (lines : InterruptLines) : List Json :=
  [.ofUInt32 lines.read, .ofUInt32 lines.write, .ofUInt32 lines.encode, .ofUInt32 lines.decode]

def toJson (lines : InterruptLines) : Json := .object (fieldNames.zip lines.toFields)

def ofJson? (value : Json) : Option InterruptLines := do
  match ← value.fields? fieldNames with
  | [read, write, encode, decode] =>
    return {
      read := ← read.uint32?
      write := ← write.uint32?
      encode := ← encode.uint32?
      decode := ← decode.uint32? }
  | _ => none

end InterruptLines

namespace Attributes

def fieldNames : List String :=
  ["image_format", "major_ver", "minor_ver", "compression_type", "lossy_params", "width",
    "height", "stride", "scanlines", "planar_padding", "subsample", "sub_system_target",
    "y_offset", "batch_size"]

def toFields (a : Attributes) : List Json :=
  [.ofUInt16 a.imageFormat, .ofUInt16 a.majorVersion, .ofUInt16 a.minorVersion,
    .ofUInt16 a.compression, .ofUInt16 a.lossyParameters, .ofUInt32 a.width,
    .ofUInt32 a.height, .ofUInt32 a.stride, .ofUInt32 a.scanlines, .ofUInt32 a.planarPadding,
    .ofUInt16 a.subsampling, .ofUInt16 a.targets, .ofUInt32 a.yOffset, .ofUInt16 a.batchSize]

def toJson (a : Attributes) : Json := .object (fieldNames.zip a.toFields)

def ofJson? (value : Json) : Option Attributes := do
  match ← value.fields? fieldNames with
  | [imageFormat, majorVersion, minorVersion, compression, lossyParameters, width, height,
      stride, scanlines, planarPadding, subsampling, targets, yOffset, batchSize] =>
    return {
      imageFormat := ← imageFormat.uint16?
      majorVersion := ← majorVersion.uint16?
      minorVersion := ← minorVersion.uint16?
      compression := ← compression.uint16?
      lossyParameters := ← lossyParameters.uint16?
      width := ← width.uint32?
      height := ← height.uint32?
      stride := ← stride.uint32?
      scanlines := ← scanlines.uint32?
      planarPadding := ← planarPadding.uint32?
      subsampling := ← subsampling.uint16?
      targets := ← targets.uint16?
      yOffset := ← yOffset.uint32?
      batchSize := ← batchSize.uint16? }
  | _ => none

end Attributes

namespace Config

def fieldNames : List String :=
  ["ula_pool_base", "ula_pool_size", "descriptor_table_iova", "fault_report_limit",
    "fault_queue_depth", "cache_flush", "cache_line_bytes", "per_line_delay_us", "irq"]

def toFields (c : Config) : List Json :=
  [.ofUInt64 c.poolBase, .ofUInt64 c.poolSize, .ofUInt64 c.tableBase, .ofUInt32 c.reportLimit,
    .ofUInt64 c.queueDepth, c.cleaning.toJson, .ofUInt64 c.cacheLineBytes,
    .ofUInt64 c.lineDelay, c.lines.toJson]

def toJson (c : Config) : Json := .object (fieldNames.zip c.toFields)

/-- Reads a configuration. Fields that are left out keep their default, but the interrupt lines
are given together or not at all. -/
def ofJson? (value : Json) : Option Config := do
  let standard : Config := {}
  match ← value.partialFields? fieldNames with
  | [poolBase, poolSize, tableBase, reportLimit, queueDepth, cleaning, cacheLineBytes,
      lineDelay, lines] =>
    return {
      poolBase := ← Json.orDefault standard.poolBase Json.uint64? poolBase
      poolSize := ← Json.orDefault standard.poolSize Json.uint64? poolSize
      tableBase := ← Json.orDefault standard.tableBase Json.uint64? tableBase
      reportLimit := ← Json.orDefault standard.reportLimit Json.uint32? reportLimit
      queueDepth := ← Json.orDefault standard.queueDepth Json.uint64? queueDepth
      cleaning := ← Json.orDefault standard.cleaning CleaningPolicy.ofJson? cleaning
      cacheLineBytes := ← Json.orDefault standard.cacheLineBytes Json.uint64? cacheLineBytes
      lineDelay := ← Json.orDefault standard.lineDelay Json.uint64? lineDelay
      lines := ← Json.orDefault standard.lines InterruptLines.ofJson? lines }
  | _ => none

end Config

end TiledSurface
