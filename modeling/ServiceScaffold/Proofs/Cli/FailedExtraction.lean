import ServiceScaffold.Proofs.Descriptor.Agreement
import ServiceScaffold.Proofs.Descriptor.Completeness

/-!
# Failed extractions leave no trace

Without a compiler a request is served in two steps: its schema is read and extracted, which changes
nothing, and only then may something be written. `Stops` says on what disk, and with which failure,
the first step is the last one; what such a run prints and leaves is `failed_extraction_traceless`.
-/
namespace ServiceScaffold
open Files
open Descriptor (Decoder FileSet)

/-! ## Where extraction stops -/

/-- The failure at which the bytes of a text stop. -/
inductive TextStops (bs : Bytes) (source : String) : Failure → Prop
  | notUtf8 {fault} : Text.Utf8.decode bs = .error fault → TextStops bs source (.notUtf8 source fault)
  | malformed {text fault} : Text.Utf8.decode bs = .ok text →
      Schema.File.ofText text = .error fault → TextStops bs source (.schema fault)
  | noService {text file} : Text.Utf8.decode bs = .ok text → Schema.File.ofText text = .ok file →
      file.services = [] → TextStops bs source (.noService source)

/-- The failure at which the bytes of a set of compiled files stop, of which one file is selected. -/
inductive SetStops (decoder : Decoder) (bs : Bytes) (source : String) : Failure → Prop
  | malformed {fault} : decoder.fileSet bs = .error fault →
      SetStops decoder bs source (.corruptSet source fault)
  | unselected {files : FileSet} {fault} : decoder.fileSet bs = .ok files →
      files.select "" = .error fault → SetStops decoder bs source (.selection fault)
  | incomplete {files : FileSet} {file part} : decoder.fileSet bs = .ok files →
      files.select "" = .ok file → file.declarations = .error part →
      SetStops decoder bs source (.missingPart part)
  | noService {files : FileSet} {file : Descriptor.File} {declarations} :
      decoder.fileSet bs = .ok files → files.select "" = .ok file →
      file.declarations = .ok declarations → file.services = [] →
      SetStops decoder bs source (.noService (if source = "" then file.name else source))

/-- The failure at which the extraction from a file stops. -/
inductive Stops (decoder : Decoder) (d : Disk) (source : String) (fromDescriptor : Bool) :
    Failure → Prop
  | nulInPath : Disk.hasNul source = true →
      Stops decoder d source fromDescriptor (.access .nulInPath)
  | unreadable {code path} : d.read source = .error (.refused code path) →
      Stops decoder d source fromDescriptor (.unreadable source code.text)
  | text {bs failure} : fromDescriptor = false → d.read source = .ok bs →
      TextStops bs source failure → Stops decoder d source fromDescriptor failure
  | descriptor {bs failure} : fromDescriptor = true → d.read source = .ok bs →
      SetStops decoder bs source failure → Stops decoder d source fromDescriptor failure

/-! ## Extraction -/

namespace Extraction

variable {decoder : Decoder}

theorem ofDeclarations_eq_error_iff {file : Schema.File} (hp : file.WellPlaced) {source : String}
    {failure : Failure} :
    ofDeclarations file source = .error failure ↔
      file.services = [] ∧ failure = .noService source := by
  rw [Model.ofDeclarations_eq hp]
  by_cases hs : file.services = []
  · simp [hs, eq_comm]
  · simp [hs]

theorem ofBytes_of_stops {bs : Bytes} {source : String} {failure : Failure}
    (h : TextStops bs source failure) : ofBytes bs source = .error failure := by
  cases h with
  | notUtf8 hd => simp only [ofBytes, hd]
  | malformed hd hf => simp only [ofBytes, ofText, hd, hf]
  | noService hd hf hs =>
    simp only [ofBytes, ofText, hd, hf]
    exact (ofDeclarations_eq_error_iff (Schema.wellPlaced_of_ofText hf)).2 ⟨hs, rfl⟩

theorem stops_of_ofBytes {bs : Bytes} {source : String} {failure : Failure}
    (h : ofBytes bs source = .error failure) : TextStops bs source failure := by
  cases hd : Text.Utf8.decode bs with
  | error fault =>
    simp only [ofBytes, hd] at h
    cases h
    exact .notUtf8 hd
  | ok text =>
    cases hf : Schema.File.ofText text with
    | error fault =>
      simp only [ofBytes, ofText, hd, hf] at h
      cases h
      exact .malformed hd hf
    | ok file =>
      simp only [ofBytes, ofText, hd, hf] at h
      obtain ⟨hs, rfl⟩ := (ofDeclarations_eq_error_iff (Schema.wellPlaced_of_ofText hf)).1 h
      exact .noService hd hf hs

/-- Once its declarations are read, a compiled file is refused only for want of a service. -/
theorem ofDeclarations_compiled_eq_error_iff {file : Descriptor.File} {declarations : Schema.File}
    (hd : file.declarations = .ok declarations) {source : String} {failure : Failure} :
    ofDeclarations declarations source = .error failure ↔
      file.services = [] ∧ failure = .noService source := by
  rw [ofDeclarations_eq_error_iff (Descriptor.wellPlaced_of_declarations hd),
    Descriptor.services_of_declarations hd, List.map_eq_nil_iff]

theorem ofSet_of_stops {bs : Bytes} {source : String} {failure : Failure}
    (h : SetStops decoder bs source failure) : ofSet bs "" source decoder = .error failure := by
  cases h with
  | malformed hb => simp only [ofSet, selectFrom, hb]
  | unselected hb hs => simp only [ofSet, selectFrom, hb, hs]
  | incomplete hb hs hd => simp only [ofSet, selectFrom, ofCompiled, hb, hs, hd]
  | noService hb hs hd hn =>
    simp only [ofSet, selectFrom, ofCompiled, hb, hs, hd]
    exact (ofDeclarations_compiled_eq_error_iff hd).2 ⟨hn, rfl⟩

theorem stops_of_ofSet {bs : Bytes} {source : String} {failure : Failure}
    (h : ofSet bs "" source decoder = .error failure) : SetStops decoder bs source failure := by
  cases hb : decoder.fileSet bs with
  | error fault =>
    simp only [ofSet, selectFrom, hb] at h
    cases h
    exact .malformed hb
  | ok files =>
    cases hs : files.select "" with
    | error fault =>
      simp only [ofSet, selectFrom, hb, hs] at h
      cases h
      exact .unselected hb hs
    | ok file =>
      cases hd : file.declarations with
      | error part =>
        simp only [ofSet, selectFrom, ofCompiled, hb, hs, hd] at h
        cases h
        exact .incomplete hb hs hd
      | ok declarations =>
        simp only [ofSet, selectFrom, ofCompiled, hb, hs, hd] at h
        obtain ⟨hn, rfl⟩ := (ofDeclarations_compiled_eq_error_iff hd).1 h
        exact .noService hb hs hd hn

theorem read_eq_nulInPath_iff {d : Disk} {path : String} :
    d.read path = .error .nulInPath ↔ Disk.hasNul path = true := by
  unfold Disk.read
  simp only
  split
  · next h => simp [h]
  · next h =>
    split <;> simp [h]

/-- Reading stops with a NUL in the path, or with what the system refused. -/
theorem readSource_eq_error_iff {d : Disk} {path : String} {failure : Failure} :
    readSource d path = .error failure ↔
      (Disk.hasNul path = true ∧ failure = .access .nulInPath) ∨
        ∃ code p, d.read path = .error (.refused code p) ∧ failure = .unreadable path code.text := by
  rw [← read_eq_nulInPath_iff (d := d)]
  unfold readSource
  cases d.read path with
  | ok bs => simp
  | error e => cases e <;> simp [eq_comm]

theorem readSource_eq_ok_iff {d : Disk} {path : String} {bs : Bytes} :
    readSource d path = .ok bs ↔ d.read path = .ok bs := by
  unfold readSource
  cases d.read path with
  | ok bs => simp
  | error e => cases e <;> simp

theorem stops_iff {d : Disk} {source : String} {fromDescriptor : Bool} {failure : Failure} :
    Stops decoder d source fromDescriptor failure ↔ readSource d source = .error failure ∨
      ∃ bs, readSource d source = .ok bs ∧ if fromDescriptor then SetStops decoder bs source failure
        else TextStops bs source failure := by
  constructor
  · intro h
    cases h with
    | nulInPath hn => exact .inl (readSource_eq_error_iff.2 (.inl ⟨hn, rfl⟩))
    | unreadable hd => exact .inl (readSource_eq_error_iff.2 (.inr ⟨_, _, hd, rfl⟩))
    | text hf hd h =>
      subst hf
      exact .inr ⟨_, readSource_eq_ok_iff.2 hd, h⟩
    | descriptor hf hd h =>
      subst hf
      exact .inr ⟨_, readSource_eq_ok_iff.2 hd, h⟩
  · rintro (h | ⟨bs, hr, h⟩)
    · rcases readSource_eq_error_iff.1 h with ⟨hn, rfl⟩ | ⟨code, path, hd, rfl⟩
      · exact .nulInPath hn
      · exact .unreadable hd
    · have hd := readSource_eq_ok_iff.1 hr
      cases fromDescriptor with
      | false => exact .text rfl hd h
      | true => exact .descriptor rfl hd h

theorem ofTextFile_eq_error_iff {d : Disk} {source : String} {failure : Failure} :
    ofTextFile d source = .error failure ↔ Stops decoder d source false failure := by
  rw [stops_iff, ofTextFile]
  cases readSource d source with
  | error e => simp
  | ok bs => simpa using Iff.intro stops_of_ofBytes ofBytes_of_stops

theorem ofSetFile_eq_error_iff {d : Disk} {source : String} {failure : Failure} :
    ofSetFile d source "" decoder = .error failure ↔ Stops decoder d source true failure := by
  rw [stops_iff, ofSetFile]
  cases readSource d source with
  | error e => simp
  | ok bs => simpa using Iff.intro stops_of_ofSet ofSet_of_stops

end Extraction

/-! ## Runs -/

namespace Cli

variable {c : Compiler} {decoder : Decoder} {arguments : List String} {r : Request} {d : Disk}

/-- The request reads its schema from a text or from a descriptor. -/
def Request.NeedsNoCompiler (r : Request) : Prop :=
  r.settings.fromDescriptor = true ∨ r.settings.viaCompiler = false

theorem extract_eq (h : r.NeedsNoCompiler) :
    extract c r d decoder =
      (if r.settings.fromDescriptor then Extraction.ofSetFile d r.source "" decoder
        else Extraction.ofTextFile d r.source, d) := by
  unfold extract
  rcases h with h | h
  · rw [if_pos h, if_pos h]
  · rw [h]
    split <;> rfl

theorem extract_eq_error_iff (h : r.NeedsNoCompiler) {failure : Failure} :
    (extract c r d decoder).1 = .error failure ↔
      Stops decoder d r.source r.settings.fromDescriptor failure := by
  rw [extract_eq h]
  cases r.settings.fromDescriptor with
  | false => exact Extraction.ofTextFile_eq_error_iff
  | true => exact Extraction.ofSetFile_eq_error_iff

theorem run_of_ofArguments (h : Request.ofArguments arguments = .ok r) :
    run c arguments d decoder = runRequest c r d decoder := by
  rw [run, h]

/-- Extraction fails where it stops, and nowhere else. The run then leaves the disk as it was: it
exits with the status 1 and says what is wrong, or ends with a failure that is not reported. To
describe a schema never changes the disk. The decoder of compiled schemas may be any. -/
theorem failed_extraction_traceless (ha : Request.ofArguments arguments = .ok r)
    (hr : r.NeedsNoCompiler) :
    (∀ failure, (extract c r d decoder).1 = .error failure ↔
      Stops decoder d r.source r.settings.fromDescriptor failure) ∧
    (∀ failure, (extract c r d decoder).1 = .error failure →
      run c arguments d decoder =
        (if failure.reported then .ok ⟨1, "", "FATAL: " ++ failure.message ++ "\n"⟩
          else .error failure, d)) ∧
    (r.command = .describe → (run c arguments d decoder).2 = d) := by
  have hd : (extract c r d decoder).2 = d := by rw [extract_eq hr]
  rw [run_of_ofArguments ha]
  refine ⟨fun failure => extract_eq_error_iff hr, ?_, ?_⟩
  · intro failure hf
    have he : extract c r d decoder = (.error failure, d) := Prod.ext hf hd
    cases hreported : failure.reported with
    | true => exact Extraction.runRequest_of_reported he hreported
    | false =>
      rw [runRequest, he, if_neg Bool.false_ne_true]
      simp only [hreported, Bool.false_eq_true, if_false]
  · intro hc
    unfold runRequest
    rw [hc]
    split
    · next he =>
      rw [he] at hd
      exact hd
    · next he =>
      rw [he] at hd
      exact hd

/-- A disk with a file that holds a closing brace. -/
def loneBrace : Disk := ⟨[(["p.proto"], .file [0x7D] false)], []⟩

def braceFault : Failure :=
  .schema ⟨.unexpected (.ofDelimiter .rbrace) .file, ⟨1, 1⟩⟩

/-- The request of `biz p.proto -t out`. -/
def braceRequest : Request :=
  ⟨.generate .domain, "p.proto", { Settings.initial "internal/biz" with directory := some "out" }⟩

/-- The file is refused, and the directory that the command line names is not made. -/
theorem failed_extraction_traceless_brace :
    Request.ofArguments ["biz", "p.proto", "-t", "out"] = .ok braceRequest ∧
      braceRequest.NeedsNoCompiler ∧ Stops .wire loneBrace "p.proto" false braceFault ∧
      run (fun _ _ => .missing) ["biz", "p.proto", "-t", "out"] loneBrace =
        (.ok ⟨1, "", "FATAL: Line 1:1: Unexpected RBRACE ('\x7d') at top level\n"⟩, loneBrace) := by
  have ha : Request.ofArguments ["biz", "p.proto", "-t", "out"] = .ok braceRequest := by
    decide +kernel
  have hf : (extract (fun _ _ => .missing) braceRequest loneBrace).1 = .error braceFault := by
    decide +kernel
  have hr : braceRequest.NeedsNoCompiler := .inr rfl
  obtain ⟨stops, traceless, _⟩ := failed_extraction_traceless ha hr
  refine ⟨ha, hr, (stops braceFault).1 hf, (traceless braceFault hf).trans ?_⟩
  have hm : "FATAL: " ++ braceFault.message ++ "\n" =
      "FATAL: Line 1:1: Unexpected RBRACE ('\x7d') at top level\n" := by
    decide +kernel
  rw [hm]
  rfl

end Cli

end ServiceScaffold
