/- Configuration files made of named sections with one setting a line. -/
namespace ClusterNet.Ini

structure Section where
  name : String
  settings : List (String × String)
  deriving DecidableEq, Repr

def Section.write (s : Section) : List Char :=
  '[' :: s.name.toList ++ [']', '\n']
    ++ s.settings.flatMap fun (key, value) =>
      key.toList ++ [' ', '=', ' '] ++ value.toList ++ ['\n']

/-- Sections are set apart by an empty line. -/
def write (sections : List Section) : String :=
  String.ofList (['\n'].intercalate (sections.map Section.write))

def settings (all : List (String × Option String)) : List (String × String) :=
  all.filterMap fun (key, value) => value.map (key, ·)

end ClusterNet.Ini
