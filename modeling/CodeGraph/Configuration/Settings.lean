import CodeGraph.Elf.Program

/-!
# Settings

What can be configured, with what holds where nothing is.
-/

namespace CodeGraph.Configuration

/-- Settings for writing containers. -/
structure WriterSettings where
  /-- Functions whose names start so are library functions. -/
  libraryPrefixes : List String := Elf.defaultLibraryPrefixes
  /-- The width of addresses in the metadata, in place of the program's. -/
  addressSpace : Option Int := none
  progress : Bool := true
  deriving DecidableEq, Repr, Inhabited

/-- Settings for reading containers. -/
structure ReaderSettings where
  /-- Refuse operand text whose markup cannot be split. -/
  strictMarkup : Bool := false
  deriving DecidableEq, Repr, Inhabited

/-- Settings for reporting events. -/
structure LoggingSettings where
  level : String := "INFO"
  /-- Report each event as JSON. -/
  json : Bool := false
  deriving DecidableEq, Repr, Inhabited

structure Settings where
  writer : WriterSettings := {}
  reader : ReaderSettings := {}
  logging : LoggingSettings := {}
  deriving DecidableEq, Repr, Inhabited

end CodeGraph.Configuration
