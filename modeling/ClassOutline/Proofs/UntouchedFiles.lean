import ClassOutline.Proofs.ProgramRuns

/-!
# Programs that look at no files

Two runs of such a program in workspaces that differ only in their files have the same value and the same events.
-/
namespace ClassOutline.Service

open Catalog Config Log

/-- The workspace with other files, seen from another directory. -/
def Workspace.withSite (w : Workspace) (site : Site) : Workspace :=
  { w with root := site.root, workingDirectory := site.workingDirectory }

namespace Program

variable {α β : Type}

/-- A program that does the same whatever files there are, and leaves them alone. -/
def IgnoresFiles (p : Program α) : Prop :=
  ∀ w site, p (w.withSite site) = ⟨(p w).value, (p w).workspace.withSite site, (p w).events⟩

theorem IgnoresFiles.pure (a : α) : IgnoresFiles (Pure.pure a : Program α) :=
  fun _ _ => rfl

theorem IgnoresFiles.fail (fault : Fault) : IgnoresFiles (Program.fail fault : Program α) :=
  fun _ _ => rfl

theorem IgnoresFiles.print (host : Host) (text : RawText) : IgnoresFiles (Program.print host text) := by
  rw [Program.print]
  split
  · exact fun _ _ => rfl
  · exact .fail _

theorem IgnoresFiles.log (host : Host) (r : Record) : IgnoresFiles (Program.log host r) :=
  fun _ _ => rfl

theorem IgnoresFiles.setUpLogging (host : Host) (level : String) (stream : Stream) :
    IgnoresFiles (Program.setUpLogging host level stream) :=
  fun _ _ => rfl

theorem IgnoresFiles.settings : IgnoresFiles Program.settings := by
  intro w site
  have hinUse : (w.withSite site).inUse = w.inUse := rfl
  rw [settings_apply, settings_apply, hinUse]
  rfl

theorem IgnoresFiles.layOut (host : Host) (s : Settings) (document : Json) :
    IgnoresFiles (Program.layOut host s document) := by
  rw [Program.layOut]
  split
  · exact .pure _
  · exact .fail _

theorem IgnoresFiles.bind {p : Program α} {f : α → Program β} (hp : IgnoresFiles p) (hf : ∀ a, IgnoresFiles (f a)) :
    IgnoresFiles (p >>= f) := by
  intro w site
  have hfirst := hp w site
  rcases bind_cases p f w with ⟨fault, hvalue, hrun⟩ | ⟨a, hvalue, hrun⟩
  · have hfault : (p (w.withSite site)).value = .error fault := by rw [hfirst, hvalue]
    rw [bind_of_error hfault, hrun, hfirst]
  · have hok : (p (w.withSite site)).value = .ok a := by rw [hfirst, hvalue]
    rw [bind_of_ok hok, hrun, hfirst]
    simp only [hf a (p w).workspace site]

end Program

end ClassOutline.Service
