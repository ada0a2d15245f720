import TiledSurface.Engine.Version
import TiledSurface.Handle

/-!
Why a request is refused. Every refusal carries its cause as a value; `Error.kind` sorts the
refusals into the classes that clients tell apart, each with one status number, and
`Error.message` is the sentence shown to them.
-/

namespace TiledSurface

/-- Lower-case hexadecimal digits behind `0x`. -/
def hexText (n : Nat) : String := "0x" ++ String.ofList (Nat.toDigits 16 n)

/-- What is wrong with a set of buffer attributes, or with the layout that follows from it. -/
inductive AttributeFault where
  | unknownFormat | compressionVersion | lossyCompression | lossyParameters
  | width | height | stride | scanlines | padding | subsampling
  | foreignTarget | missingTarget | yOffset | batchSize
  | sizeOverflow | emptyWindow
  | uvStartOverflow | uvStartRange | uvStartUnaligned
  | widthField | heightField | strideField
  | uvMetadataOverflow | addressField | metadataField
  deriving DecidableEq

def AttributeFault.message : AttributeFault → String
  | .unknownFormat => "unknown image format"
  | .compressionVersion => "ubwc version must be 0.0"
  | .lossyCompression => "only lossless compression is supported"
  | .lossyParameters => "lossy parameters must be 0"
  | .width => "width above limit"
  | .height => "height above limit"
  | .stride => "stride must be 64-byte aligned, at least the width and at most 32768"
  | .scanlines => "scanlines out of range"
  | .padding => "planar padding above 4096"
  | .subsampling => "only 4:2:0 subsampling is supported"
  | .foreignTarget => "only the CPU subsystem target is supported"
  | .missingTarget => "CPU subsystem target is required"
  | .yOffset => "y offset must be 0"
  | .batchSize => "batch size must be 1"
  | .sizeOverflow => "surface geometry overflows"
  | .emptyWindow => "surface has an empty ULA window"
  | .uvStartOverflow => "uv start overflows"
  | .uvStartRange => "uv start beyond 48-bit cache-line address"
  | .uvStartUnaligned => "uv start is not cache-line aligned"
  | .widthField => "width in bytes exceeds 16 bits"
  | .heightField => "height exceeds 16 bits"
  | .strideField => "stride exceeds descriptor field"
  | .uvMetadataOverflow => "metadata uv base overflows"
  | .addressField => "iova beyond descriptor range"
  | .metadataField => "metadata size exceeds descriptor field"

inductive RequestFault where
  | zeroSized | notReserved | unknownBuffer | attributesUnset | linearSurface
  | lockCountOverflow | notLocked | unknownDirection
  deriving DecidableEq

def RequestFault.message : RequestFault → String
  | .zeroSized => "zero-sized ULA request"
  | .notReserved => "ULA range is not a live reservation"
  | .unknownBuffer => "unknown buffer"
  | .attributesUnset => "attributes not set"
  | .linearSurface => "linear surfaces cannot be locked"
  | .lockCountOverflow => "lock count overflow"
  | .notLocked => "surface is not locked"
  | .unknownDirection => "unknown access direction"

inductive ConfigFault where
  | poolShape | poolWraps | tableAddress | cacheLine | sharedLines
  deriving DecidableEq

def ConfigFault.message : ConfigFault → String
  | .poolShape => "ULA pool must be non-empty and 4 KiB aligned"
  | .poolWraps => "ULA pool wraps the address space"
  | .tableAddress => "descriptor table iova must be non-zero"
  | .cacheLine => "cache line size must be non-zero"
  | .sharedLines => "fault interrupt lines must be distinct"

/-- The platform requests that can be turned down for no reason of ours. -/
inductive PlatformRequest where
  | mapping | attach | online | offline
  deriving DecidableEq

def PlatformRequest.text : PlatformRequest → String
  | .mapping => "mmap configuration"
  | .attach => "device attach"
  | .online => "memory online"
  | .offline => "memory offline"

/-- Why the platform refuses a request. -/
inductive PlatformError where
  | unknownBuffer (handle : Handle)
  | alreadyAttached (handle : Handle)
  | notAttached (handle : Handle)
  | rejected (request : PlatformRequest)
  deriving DecidableEq

/-- The sentence for a request of this name that is turned down. -/
def rejection (request : String) : String := s!"{request} rejected"

def PlatformError.message : PlatformError → String
  | .unknownBuffer handle => s!"unknown buffer {handle.text}"
  | .alreadyAttached handle => s!"buffer {handle.text} is already attached"
  | .notAttached handle => s!"buffer {handle.text} is not attached"
  | .rejected request => rejection request.text

/-- A service below the driver that failed, or gave too little. -/
inductive Failure where
  | bringOnline (cause : PlatformError)
  | mapLinear (cause : PlatformError)
  | mapWindow (cause : PlatformError)
  | attach (cause : PlatformError)
  | bufferTooSmall (length needed : Nat)
  deriving DecidableEq

def Failure.message : Failure → String
  | .bringOnline cause => s!"ULA memory online failed: {cause.message}"
  | .mapLinear cause => s!"reverting mmap to linear failed: {cause.message}"
  | .mapWindow cause => s!"mapping ULA window failed: {cause.message}"
  | .attach cause => s!"device attach failed: {cause.message}"
  | .bufferTooSmall length needed =>
    s!"buffer spans {hexText length} bytes, surface needs {hexText needed}"

/-- The classes of refusal. -/
inductive ErrorKind where
  | alreadyExists | outOfMemory | busy | invalidAttributes | outOfSpace | failed
  | notSet | invalid | exhausted | unsupportedHardware | invalidConfig
  deriving DecidableEq

/-- The status number of a class, negative as the device boundary wants it. -/
def ErrorKind.status : ErrorKind → Int
  | .alreadyExists => -17
  | .outOfMemory => -12
  | .busy => -16
  | .invalidAttributes | .invalid | .invalidConfig => -22
  | .outOfSpace => -28
  | .failed | .unsupportedHardware => -5
  | .notSet => -61
  | .exhausted => -105

/-- The sentence of a class around the detail of one refusal. Some classes have no detail. -/
def ErrorKind.sentence (detail : String) : ErrorKind → String
  | .alreadyExists => s!"buffer {detail} is already registered"
  | .outOfMemory => "out of memory while registering a surface"
  | .busy => "surface is locked"
  | .invalidAttributes => s!"invalid buffer attributes: {detail}"
  | .outOfSpace => s!"ULA pool cannot fit {detail} bytes"
  | .failed => detail
  | .notSet => "buffer attributes are not set"
  | .invalid => s!"invalid request: {detail}"
  | .exhausted => s!"all {detail} buffer descriptors are in use"
  | .unsupportedHardware => s!"unsupported hardware version {detail}"
  | .invalidConfig => s!"invalid configuration: {detail}"

inductive Error where
  | alreadyExists (handle : Handle)
  | busy
  | invalidAttributes (fault : AttributeFault)
  | outOfSpace (size : Nat)
  | failed (failure : Failure)
  | notSet
  | invalid (fault : RequestFault)
  | exhausted (count : Nat)
  | unsupportedHardware (version : Version)
  | invalidConfig (fault : ConfigFault)
  deriving DecidableEq

namespace Error

def kind : Error → ErrorKind
  | .alreadyExists _ => .alreadyExists
  | .busy => .busy
  | .invalidAttributes _ => .invalidAttributes
  | .outOfSpace _ => .outOfSpace
  | .failed _ => .failed
  | .notSet => .notSet
  | .invalid _ => .invalid
  | .exhausted _ => .exhausted
  | .unsupportedHardware _ => .unsupportedHardware
  | .invalidConfig _ => .invalidConfig

def detail : Error → String
  | .alreadyExists handle => handle.text
  | .busy | .notSet => ""
  | .invalidAttributes fault => fault.message
  | .outOfSpace size => hexText size
  | .failed failure => failure.message
  | .invalid fault => fault.message
  | .exhausted count => s!"{count}"
  | .unsupportedHardware version => version.text
  | .invalidConfig fault => fault.message

def message (error : Error) : String := error.kind.sentence error.detail

end Error

end TiledSurface
