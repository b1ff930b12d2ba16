import ClassOutline.Proofs.DirectoryCatalog
import ClassOutline.Proofs.WorkerPool

/-!
# Catalogs made by several workers

The number of workers and the order in which they end their files make no difference to the catalog of a directory, and
none to the records but for their order.
-/
namespace ClassOutline.Catalog

open Files Log Outline

namespace Method

/-- One worker at all files. -/
def sequential (method : Method) : Method :=
  { method with settings := { method.settings with maxWorkers := 1 } }

/-- The workers of a method can come from one state of their work to another. -/
def Run (method : Method) : Work FoundFile (Logged (RawText × FileOutline)) →
    Work FoundFile (Logged (RawText × FileOutline)) → Prop :=
  Work.Run method.settings.maxWorkers.toNat (Site.outlineFound method)

def Ended (method : Method) : Work FoundFile (Logged (RawText × FileOutline)) → Prop :=
  Work.Ended method.settings.maxWorkers.toNat (Site.outlineFound method)

end Method

/-- The plain path is the pool as well: one worker keeps the order of the files, and one file has only one order. -/
theorem outlineAll_eq_pool (method : Method) (hworkers : 1 ≤ method.settings.maxWorkers) (files : List FoundFile) :
    Site.outlineAll method files =
      ⟨⟨files.map fun x => (Site.outlineFound method x).value⟩,
        (Pool.order method.settings.maxWorkers.toNat method.schedule
          (files.map (Site.outlineFound method))).flatMap Logged.records⟩ := by
  have hvalues : (files.map (Site.outlineFound method)).map Logged.value =
      files.map fun x => (Site.outlineFound method x).value := by
    rw [List.map_map]
    rfl
  simp only [Site.outlineAll, hvalues]
  split
  · rfl
  · rename_i hplain
    have hperm := Pool.order_perm (by omega : 0 < method.settings.maxWorkers.toNat) method.schedule
      (files.map (Site.outlineFound method))
    congr 2
    by_cases hone : method.settings.maxWorkers = 1
    · rw [hone]
      exact (Pool.order_one _ _).symm
    · have hfew : files.length ≤ 1 := by omega
      cases files with
      | nil => exact (List.perm_nil.mp hperm).symm
      | cons x files =>
        rw [List.length_cons] at hfew
        obtain rfl : files = [] := List.length_eq_zero_iff.mp (by omega)
        exact (List.perm_singleton.mp hperm).symm

private theorem records_sequential (method : Method) (files : List FoundFile) :
    (Site.outlineAll method.sequential files).records =
      files.flatMap fun x => (Site.outlineFound method x).records := by
  rw [outlineAll_eq_pool _ (Int.le_refl 1)]
  change (Pool.order 1 _ _).flatMap _ = _
  rw [Pool.order_one, List.flatMap_map]
  rfl

/-- Whether there is a catalog depends on the files and the suffixes only, and so does which files it is made of. -/
theorem ofDirectory_cases (site : Site) (extensions : List String) (path : Path) :
    (∃ fault, ∀ method : Method, method.settings.extensions = extensions →
      site.ofDirectory method path = .error fault) ∨
    ∃ begun files, site.list extensions (path.absolute site.workingDirectory) = .ok (files.map FoundFile.path) ∧
      ∀ method : Method, method.settings.extensions = extensions → site.ofDirectory method path =
        .ok ⟨(Site.outlineAll method files).value, begun :: (Site.outlineAll method files).records⟩ := by
  cases hfound : site.lookup (path.absolute site.workingDirectory) with
  | missing => exact .inl ⟨_, fun method _ => by rw [Site.ofDirectory, hfound]⟩
  | tooLong => exact .inl ⟨_, fun method _ => by rw [Site.ofDirectory, hfound]⟩
  | found e =>
    cases e with
    | file content => exact .inl ⟨_, fun method _ => by rw [Site.ofDirectory, hfound]⟩
    | directory entries =>
      cases hlisting : listing extensions (path.absolute site.workingDirectory) (.directory entries) with
      | error p =>
        refine .inl ⟨.tooLong p, ?_⟩
        rintro method rfl
        simp only [Site.ofDirectory, hfound, hlisting]
      | ok files =>
        have hlist : site.list extensions (path.absolute site.workingDirectory) = .ok (files.map FoundFile.path) := by
          simp only [Site.list, hfound, hlisting]
        refine .inr ⟨.of .debug catalogLogger
          s!"Outlining {files.length} files under {(path.absolute site.workingDirectory).text.shown}", files, hlist, ?_⟩
        rintro method rfl
        simp only [Site.ofDirectory, hfound, hlisting]

/-- In which order files are finished makes no difference to a catalog. -/
theorem map_value_ofPath_schedule (site : Site) (method : Method) (schedule : List Nat) (path : Path) :
    (site.ofPath { method with schedule := schedule } path).map Logged.value =
      (site.ofPath method path).map Logged.value := by
  have hdirectory : (site.ofDirectory { method with schedule := schedule } path).map Logged.value =
      (site.ofDirectory method path).map Logged.value := by
    rcases ofDirectory_cases site method.settings.extensions path with ⟨fault, herror⟩ | ⟨begun, files, _, hok⟩
    · rw [herror method rfl, herror { method with schedule := schedule } rfl]
    · rw [hok method rfl, hok { method with schedule := schedule } rfl]
      rfl
  unfold Site.ofPath
  cases site.lookup path with
  | missing => rfl
  | tooLong => rfl
  | found e =>
    cases e with
    | file content => rfl
    | directory entries => exact hdirectory

/-- With any number of workers, and however they take and end the files, a directory has the catalog that one worker
makes, if it has one, and the records are the same up to their order. Whatever the workers have done, they can come to
an end; then the results stand in the order of the files, and the order of the records is that of a schedule. -/
theorem catalog_independent_of_workers (site : Site) (method : Method) (path : Path)
    (hworkers : 1 ≤ method.settings.maxWorkers) :
    (∀ fault, site.ofDirectory method.sequential path = .error fault → site.ofDirectory method path = .error fault) ∧
    ∀ catalog records, site.ofDirectory method.sequential path = .ok ⟨catalog, records⟩ →
      (∃ records', site.ofDirectory method path = .ok ⟨catalog, records'⟩ ∧ records'.Perm records) ∧
      ∃ begun files, site.list method.settings.extensions (path.absolute site.workingDirectory) =
          .ok (files.map FoundFile.path) ∧
        records = begun :: files.flatMap (fun x => (Site.outlineFound method x).records) ∧
        ∀ w, method.Run (.start files) w →
          (∃ w', method.Run w w' ∧ method.Ended w') ∧
          (method.Ended w →
            w.delivered.map Logged.value = catalog.entries ∧
            (begun :: w.finished.flatMap fun x => x.1.records).Perm records ∧
            ∃ schedule, site.ofDirectory { method with schedule := schedule } path =
              .ok ⟨catalog, begun :: w.finished.flatMap fun x => x.1.records⟩) := by
  have hpositive : 0 < method.settings.maxWorkers.toNat := by omega
  rcases ofDirectory_cases site method.settings.extensions path with ⟨fault, herror⟩ | ⟨begun, files, hlist, hok⟩
  · rw [herror method rfl, herror method.sequential rfl]
    exact ⟨fun _ h => h, fun _ _ h => by simp at h⟩
  · rw [hok method rfl, hok method.sequential rfl, records_sequential]
    refine ⟨fun _ h => by simp at h, ?_⟩
    intro catalog records hsequential
    simp only [Except.ok.injEq, Logged.mk.injEq] at hsequential
    obtain ⟨rfl, rfl⟩ := hsequential
    have hrecords {order : List (Logged (RawText × FileOutline))}
        (hperm : order.Perm (files.map (Site.outlineFound method))) :
        (begun :: order.flatMap Logged.records).Perm
          (begun :: files.flatMap fun x => (Site.outlineFound method x).records) := by
      have hflat := hperm.flatMap_right Logged.records
      rw [List.flatMap_map] at hflat
      exact hflat.cons begun
    refine ⟨⟨_, rfl, ?_⟩, begun, files, hlist, rfl, ?_⟩
    · rw [outlineAll_eq_pool _ hworkers]
      exact hrecords (Pool.order_perm hpositive _ _)
    · intro w hrun
      refine ⟨Work.exists_ended w, ?_⟩
      intro hended
      have hfinished := Work.finished_perm hpositive hrun hended
      refine ⟨?_, ?_, ?_⟩
      · rw [Work.delivered_eq hfinished]
        rfl
      · have hperm := hfinished.map Prod.fst
        rw [List.zipIdx_map_fst] at hperm
        simpa [List.flatMap_map] using hrecords hperm
      · obtain ⟨schedule, hschedule⟩ :=
          (Work.exists_run_iff_exists_schedule hpositive _ files _).mp ⟨w, hrun, hended, rfl⟩
        have hpool := outlineAll_eq_pool { method with schedule := schedule } hworkers files
        have horder : (Site.outlineAll { method with schedule := schedule } files).records =
            w.finished.flatMap fun x => x.1.records := by
          rw [hpool]
          change (Pool.order _ schedule (files.map (Site.outlineFound method))).flatMap Logged.records = _
          rw [hschedule, List.flatMap_map]
        refine ⟨schedule, ?_⟩
        rw [hok { method with schedule := schedule } rfl, horder]
        rfl

/-- Two workers, of which the one at the second file ends first. -/
def twoWorkers : Method :=
  { smallMethod with settings := { smallMethod.settings with maxWorkers := 2 }, schedule := [1] }

theorem twoWorkers_catalog :
    1 ≤ twoWorkers.settings.maxWorkers ∧ ∃ catalog records records',
      smallSite.ofDirectory twoWorkers.sequential (upAndDown 0) = .ok ⟨catalog, records⟩ ∧
      smallSite.ofDirectory twoWorkers (upAndDown 0) = .ok ⟨catalog, records'⟩ ∧ records'.Perm records ∧
      ∃ files w, twoWorkers.Run (.start files) w ∧ twoWorkers.Ended w ∧
        w.delivered.map Logged.value = catalog.entries := by
  have hworkers : 1 ≤ twoWorkers.settings.maxWorkers := by decide
  have habsolute : (upAndDown 0).absolute smallSite.workingDirectory = upAndDown 0 := rfl
  have hfound : smallSite.lookup ((upAndDown 0).absolute smallSite.workingDirectory) = .found twoFiles := by
    rw [habsolute, lookup_upAndDown (by decide)]
  have hshort : overlong? ((upAndDown 0).absolute smallSite.workingDirectory) twoFiles = none := by decide
  obtain ⟨records, hsequential⟩ := ofDirectory_of_short twoWorkers.sequential hfound hshort
  obtain ⟨_, hsame⟩ := catalog_independent_of_workers smallSite twoWorkers (upAndDown 0) hworkers
  obtain ⟨⟨records', hcatalog, hperm⟩, begun, files, _, _, hruns⟩ := hsame _ _ hsequential
  obtain ⟨⟨w, hrun, hended⟩, _⟩ := hruns _ .refl
  exact ⟨hworkers, _, records, records', hsequential, hcatalog, hperm, files, w, hrun, hended,
    ((hruns w hrun).2 hended).1⟩

end ClassOutline.Catalog
