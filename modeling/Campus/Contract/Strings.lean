import Campus.Keyed

/-!
# Message texts

Texts for warnings and errors, looked up by identifier and component.
-/

namespace Campus

structure Strings where
  entries : List ((String × String) × String) := []

namespace Strings

def set (identifier component text : String) (s : Strings) : Strings :=
  let key := (identifier, component)
  if Keyed.contains key s.entries then ⟨Keyed.modify key (fun _ => text) s.entries⟩
  else ⟨s.entries ++ [(key, text)]⟩

def size (s : Strings) : Nat := s.entries.length

/-- The text of an identifier, which in brackets stands for itself if it has none. -/
def get (identifier component : String) (s : Strings) : String :=
  (Keyed.get? (identifier, component) s.entries).getD s!"[[{identifier},{component}]]"

def english : Strings where
  entries := [
    (("error:badgeawardnotfound", "badges"),
      "Cannot verify this awarded badge. This badge may have been revoked."),
    (("error:backpackisnotconnected", "badges"), "The user does not have a backpack connected."),
    (("error:sitebackpackisnotconnected", "badges"),
      "You do not have a backpack connected to this site."),
    (("badgesdisabled", "badges"), "Badges are not enabled on this site."),
    (("externalbackpackdisabled", "badges"), "External backpacks are not enabled on this site."),
    (("usercantremovesubmission", "assign"),
      "You don't have permission to remove this user's submission."),
    (("userdonthavesubmission", "assign"), "This user doesn't have a submission to remove."),
    (("nopermissiontoseethechatlog", "chat"), "You don't have permission to see the chat logs."),
    (("invalidcoursemodule", "error"), "Invalid course module ID")]

/-- Texts that replace others: components, each with identifiers and their texts. -/
abbrev Overrides := List (String × List (String × String))

def withOverrides (overrides : Overrides) (s : Strings) : Strings :=
  overrides.foldl (fun s (component, texts) =>
    texts.foldl (fun s (identifier, text) => s.set identifier component text) s) s

end Strings

end Campus
