import RecordSync.Command.Run

set_option autoImplicit false

namespace RecordSync

structure Arguments where
  word : Option String
  file : Option String
  record : Option String
  existing : Option String
  style : Style

namespace Arguments

def blank : Arguments := ⟨none, none, none, none, .lines⟩

def usage : String :=
  "usage: recordsync [--json] <validate|map|diff> -f WORKFLOW [-r RECORD] [-e EXISTING]"

def read (given : Arguments) : List String → Except String Arguments
  | [] => .ok given
  | "--json" :: rest => read { given with style := .json } rest
  | "-f" :: path :: rest | "--file" :: path :: rest => read { given with file := some path } rest
  | "-r" :: path :: rest | "--record" :: path :: rest => read { given with record := some path } rest
  | "-e" :: path :: rest | "--existing" :: path :: rest =>
    read { given with existing := some path } rest
  | word :: rest =>
    if word.startsWith "-" || given.word.isSome then .error word
    else read { given with word := some word } rest

def command? (given : Arguments) : Option Command :=
  match given.word, given.file, given.record, given.existing with
  | some "validate", some file, none, none => some (.validate file)
  | some "map", some file, some record, none => some (.map file record)
  | some "diff", some file, some record, some existing => some (.diff file record existing)
  | _, _, _, _ => none

end Arguments

end RecordSync
