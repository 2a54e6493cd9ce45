import IdMint.Fault

/-!
# The surroundings of a program

What settings are loaded from: files, the variables of the environment, and the
home directories of users. A path may begin with a tilde and the name of a user,
which stand for the home directory of that user, or with a tilde alone, which
stands for the home of whoever runs the program.

The name of a user is looked up as the system spells it. So it needs an encoding,
and a zero byte would end it too soon: a path with a name that has one or the other
defect cannot be expanded. An unknown name leaves the path as it is.
-/

namespace IdMint

/-- What a regular file holds, or why it cannot be read. -/
abbrev Contents := Except Text Bytes

/-- What surrounds a program. -/
structure Surroundings where
  /-- The regular file at a path, if there is one. -/
  file? : Text → Option Contents
  environment : List (Text × Text)
  /-- The home directory that is on record for the user of the program. -/
  ownHome : Option Text
  /-- The home directories that are on record for users, by their names. -/
  homes : Text → Option Text

namespace Surroundings

/-- The value of a variable. -/
def readVariable? (s : Surroundings) (name : Text) : Option Text :=
  (s.environment.find? (·.1 = name)).map (·.2)

/-- The variable that names the home directory of the user of the program. -/
def homeVariable : Text := "HOME"

/-- The home directory of the user of the program: the one that the environment
names, or else the one on record. -/
def home? (s : Surroundings) : Option Text :=
  match s.readVariable? homeVariable with
  | some home => some home
  | none => s.ownHome

/-- The home directory of the user with a name. -/
def homeOf? (s : Surroundings) (name : Text) : Except Fault (Option Text) :=
  match Utf8.encode name with
  | .error defect => .error (.unencodable defect)
  | .ok bytes => if bytes.contains 0 then .error .embeddedNull else .ok (s.homes name)

/-- The path that leads from a home directory to what lies below it. -/
def belowHome (home rest : Text) : Text :=
  let path := (home.reverse.dropWhile (·.is '/')).reverse ++ rest
  if path.isEmpty then "/" else path

/-- The path with a tilde and `rest` behind it, expanded if the home directory of
the user of the program is known. -/
def ownPath (s : Surroundings) (rest : Text) : Text :=
  match s.home? with
  | some home => belowHome home rest
  | none => ("~" : Text) ++ rest

/-- The path with a home directory in place of the tilde and the name at its
head. -/
def expand (s : Surroundings) : Text → Except Fault Text
  | [] => .ok []
  | c :: rest =>
    if c.is '~' then
      let name := rest.takeWhile fun c => !c.is '/'
      let below := rest.dropWhile fun c => !c.is '/'
      if name.isEmpty then .ok (s.ownPath below)
      else (s.homeOf? name).map fun home =>
        match home with
        | some home => belowHome home below
        | none => c :: rest
    else .ok (c :: rest)

end Surroundings

end IdMint
