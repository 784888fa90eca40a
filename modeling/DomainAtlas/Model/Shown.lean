import DomainAtlas.Model.Contexts
import DomainAtlas.Text.Shown

/-! Short texts that tell people what a profile, a view or a context stands for. -/

namespace DomainAtlas

/-- A record on one line: its name, and its fields between braces. -/
def shownRecord (name : String) (fields : List (String × String)) : String :=
  name ++ " \x7b " ++ ", ".intercalate (fields.map fun (key, value) => key ++ ": " ++ value)
    ++ " \x7d"

def Profile.shown (profile : Profile) : String :=
  shownRecord "TypeMirrorRef"
    [("type_name", Text.quoted profile.typeName), ("domain_type", profile.role.word)]

def View.shown {role : Role} (view : View role) : String :=
  shownRecord role.profileName [("type_name", Text.quoted view.typeName)]

def Context.shown (context : Context) : String :=
  shownRecord "BoundedContextMirror" [("package_name", Text.quoted context.package)]

end DomainAtlas
