import EidolonSdk.DeviceFoundation.CommissioningVoucher
import EidolonSdk.DeviceFoundation.SignedDocuments
import EidolonSdk.Logic.SortedBy
import EidolonSdk.Python.Glob
import EidolonSdk.Python.JsonReader
import EidolonSdk.Python.SortedJson
import Mathlib.Data.List.Dedup

/-!
# Generated artifacts

The contract directory holds sources and what is generated from them: a catalog
of the sources and a binding for each language.  The tool writes the artifacts or
compares them with the sources.
-/

namespace EidolonSdk
namespace DeviceFoundation

open Python Logic Support

/-- The files below {lit}`ROOT` by their paths. -/
abbrev Tree := Dict PyStr Bytes

inductive GenerationFailure where
  | raised (e : PyException)
  | globRefused (refusal : GlobRefusal)
  /-- `OSError`. -/
  | osError
  | fileNotFound (path : PyStr)
  | runtimeError (message : PyStr)
  deriving DecidableEq

def raising {α : Type} : Except PyException α -> Except GenerationFailure α
  | .ok a => .ok a
  | .error e => .error (.raised e)

/-- {lit}`path.read_bytes()`. -/
def readBytes (tree : Tree) (path : PyStr) : Except GenerationFailure Bytes :=
  match tree.lookup path with
  | some bytes => .ok bytes
  | none => .error (.fileNotFound path)

/-- {lit}`json.loads(path.read_text(encoding="utf-8"))`. -/
def readJson (tree : Tree) (path : PyStr) : Except GenerationFailure Json := do
  let bytes ← readBytes tree path
  let text ← raising (decodeText bytes)
  raising (Json.loads Json.dictHook text)

/-!
## The configuration
-/

structure BindingOutput where
  template : PyStr
  path : PyStr
  deriving DecidableEq

structure GenerationConfig where
  sourceGlobs : List PyStr
  generator : Json
  generatorVersion : Json
  bindingOutputs : List BindingOutput

/-- {lit}`v[key]`. -/
def item (v : Json) (key : String) : Except PyException Json :=
  match v with
  | .object members =>
      match Members.get members key with
      | some found => .ok found
      | none => .error .keyError
  | _ => .error .typeError

/-- What a loop over the value goes through. -/
def itemsOf : Json -> Except PyException (List Json)
  | .array items => .ok items
  | .str s => .ok (s.map fun c => .str [c])
  | .object members => .ok (Members.keys members |>.map .str)
  | _ => .error .typeError

def textOf : Json -> Except PyException PyStr
  | .str s => .ok s
  | _ => .error .typeError

/-- {lit}`ROOT / text`, from the root on. -/
def pathOf (text : PyStr) : PyStr :=
  let path := [codePoint '/'].intercalate (pathParts text)
  if text.head? = some (codePoint '/') then codePoint '/' :: path else path

def bindingOutput (v : Json) : Except PyException BindingOutput := do
  let template ← textOf (← item v "template")
  let path ← textOf (← item v "path")
  pure ⟨pathOf template, pathOf path⟩

def configOf (v : Json) : Except PyException GenerationConfig := do
  let globs ← itemsOf (← item v "source_globs")
  let sourceGlobs ← globs.mapM textOf
  let generator ← item v "generator"
  let generatorVersion ← item v "generator_version"
  let bindings ← itemsOf (← item v "binding_outputs")
  let bindingOutputs ← bindings.mapM bindingOutput
  pure ⟨sourceGlobs, generator, generatorVersion, bindingOutputs⟩

def configPath : PyStr := str "generation/config.json"

def loadConfig (tree : Tree) : Except GenerationFailure GenerationConfig := do
  raising (configOf (← readJson tree configPath))

/-!
## The sources
-/

/-- What {lit}`ROOT.glob` raises for one of the patterns. -/
def acceptGlobs (config : GenerationConfig) : Except GenerationFailure Unit :=
  config.sourceGlobs.forM fun pattern =>
    match globPattern pattern with
    | .ok _ => .ok ()
    | .error refusal => .error (.globRefused refusal)

def GenerationConfig.isSource (config : GenerationConfig) (path : PyStr) : Bool :=
  config.sourceGlobs.any fun pattern => globMatches pattern path

/-- {lit}`_source_files` with what they hold; a tree has its paths in order. -/
def sourceFiles (config : GenerationConfig) (tree : Tree) : List (PyStr × Bytes) :=
  tree.entries.filter fun file => config.isSource file.fst

/-!
## The catalog
-/

section Catalog

variable (hash : Sha256) (I : Interpreter)

/-- What one file adds to the digest. -/
def digestLine (file : PyStr × Bytes) : Except PyException Bytes := do
  let relative ← encodeText file.fst
  let digest ← encodeText (hash.hexdigest file.snd)
  pure (relative ++ [0] ++ digest ++ [0x0A])

def digestInput : List (PyStr × Bytes) -> Except PyException Bytes
  | [] => .ok []
  | file :: rest => do
      let line ← digestLine hash file
      let lines ← digestInput rest
      pure (line ++ lines)

def sourceDigest (files : List (PyStr × Bytes)) : Except PyException PyStr := do
  let input ← digestInput hash files
  pure (str "sha256:" ++ hash.hexdigest input)

def catalogEntry (file : PyStr × Bytes) : Json :=
  .object [
    (str "path", .str file.fst),
    (str "sha256", .str (hash.hexdigest file.snd)),
    (str "size", .int file.snd.length)]

def buildCatalog (config : GenerationConfig) (tree : Tree) :
    Except GenerationFailure Json := do
  acceptGlobs config
  let files := sourceFiles config tree
  let digest ← raising (sourceDigest hash files)
  pure (.object [
    (str "artifact", .str (str "eidolon-device-foundation-v1-canonical-source")),
    (str "contract_version", .str (str "1.0")),
    (str "generator", config.generator),
    (str "generator_version", config.generatorVersion),
    (str "source_digest", .str digest),
    (str "files", .array (files.map (catalogEntry hash)))])

def newline (level : Nat) : PyStr :=
  codePoint '\n' :: List.replicate (2 * level) (codePoint ' ')

/-- JSON text with {lit}`indent=2`, at a level. -/
def indentedText : Json -> Nat -> PyStr
  | .array (first :: rest), level =>
      str "[" ++ newline (level + 1) ++
        (str "," ++ newline (level + 1)).intercalate
          (indentedText first (level + 1) :: indentedItems rest (level + 1)) ++
        newline level ++ str "]"
  | .object ((k, v) :: rest), level =>
      str "\x7b" ++ newline (level + 1) ++
        (str "," ++ newline (level + 1)).intercalate
          ((Json.quoted k ++ str ": " ++ indentedText v (level + 1)) ::
            indentedMembers rest (level + 1)) ++
        newline level ++ str "\x7d"
  | v, _ => v.compactText I
where
  indentedItems : List Json -> Nat -> List PyStr
    | [], _ => []
    | v :: rest, level => indentedText v level :: indentedItems rest level
  indentedMembers : Members -> Nat -> List PyStr
    | [], _ => []
    | (k, v) :: rest, level =>
        (Json.quoted k ++ str ": " ++ indentedText v level) ::
          indentedMembers rest level

/-- {lit}`_canonical_json`. -/
def catalogText (v : Json) : Except PyException Bytes :=
  if v.all Json.shortInteger = true then
    encodeText (indentedText I v.sorted 0 ++ [codePoint '\n'])
  else .error .valueError

end Catalog

/-!
## The outputs
-/

/-- {lit}`outputs[path] = bytes`; an existing path keeps its place. -/
def assignOutput (path : PyStr) (bytes : Bytes) :
    List (PyStr × Bytes) -> List (PyStr × Bytes)
  | [] => [(path, bytes)]
  | output :: rest =>
      if output.fst = path then (path, bytes) :: rest
      else output :: assignOutput path bytes rest

def catalogPath : PyStr := str "generated/catalog.json"

def addBinding (tree : Tree) (outputs : List (PyStr × Bytes))
    (binding : BindingOutput) : Except GenerationFailure (List (PyStr × Bytes)) := do
  let template ← readBytes tree binding.template
  pure (assignOutput binding.path template outputs)

def buildOutputs (hash : Sha256) (I : Interpreter) (config : GenerationConfig)
    (tree : Tree) : Except GenerationFailure (List (PyStr × Bytes)) := do
  let catalog ← buildCatalog hash config tree
  let text ← raising (catalogText I catalog)
  config.bindingOutputs.foldlM (addBinding tree) [(catalogPath, text)]

/-!
## What the bindings cover
-/

def definedByHand : List PyStr :=
  ["OwnerDomainId", "BusinessOwnerId", "DeviceRef", "ManifestRef", "ClaimGrantAAD",
    "CommandEnvelope", "CommandResult", "DeviceProblem", "RevokeClaim",
    "RevokeClaimResult", "SetupDescriptor", "SetupDescriptorTrust",
    "SetupWindowRemainingSeconds", "DeviceInstanceId"].map str

def definitionPaths : List PyStr :=
  ["admission/schemas.schema.json", "delivery-port/schemas.schema.json",
    "events/schemas.schema.json"].map str

def definitionsIn (tree : Tree) (path : PyStr) :
    Except GenerationFailure (List PyStr) := do
  let schema ← readJson tree path
  match ← raising (item schema "$defs") with
  | .object members => pure (Members.keys members)
  | _ => throw (.raised .typeError)

/-- {lit}`_binding_definitions`. -/
def bindingDefinitions (tree : Tree) : Except GenerationFailure (List PyStr) := do
  let published ← definitionPaths.mapM (definitionsIn tree)
  pure (definedByHand ++ published.flatten)

/-- {lit}`path.suffix`. -/
def suffixOf (path : PyStr) : PyStr :=
  let name := (path.splitOn (codePoint '/')).getLastD []
  let extension := (name.splitOn (codePoint '.')).getLastD []
  if name.length ≤ extension.length + 1 ∨ extension = [] then []
  else codePoint '.' :: extension

def boundSuffixes : List PyStr := [".py", ".dart", ".h"].map str

/-- Of two outputs with one suffix the last one is looked at. -/
def rendered (outputs : List (PyStr × Bytes)) :
    Except PyException (List (PyStr × PyStr)) :=
  outputs.foldlM
    (fun texts output =>
      if suffixOf output.fst ∈ boundSuffixes then do
        let text ← decodeText output.snd
        pure ((suffixOf output.fst, text) :: texts)
      else pure texts)
    []

/-- The symbol that stands for a definition in a language. -/
def symbolIn (definition suffix : PyStr) : PyStr :=
  if suffix = str ".dart" then
    if definition = str "AdmissionEventSource" then str "admissionEventSourceV1"
    else definition ++ str "V1"
  else if suffix = str ".h" ∧ definition = str "AdmissionEventSource" then
    str "kAdmissionEventSource"
  else definition

/-- {lit}`symbol in text`. -/
def occursIn (symbol text : PyStr) : Bool :=
  text.tails.any symbol.isPrefixOf

def checkSymbol (texts : List (PyStr × PyStr)) (definition suffix : PyStr) :
    Except GenerationFailure Unit :=
  match texts.lookup suffix with
  | none => .error (.raised .keyError)
  | some text =>
      if occursIn (symbolIn definition suffix) text = true then .ok ()
      else .error (.runtimeError
        (str "published definition " ++ definition ++ str " has no " ++
          suffix.tail ++ str " binding symbol " ++ symbolIn definition suffix))

def checkBindingCoverage (tree : Tree) (outputs : List (PyStr × Bytes)) :
    Except GenerationFailure Unit := do
  let texts ← raising (rendered outputs)
  let definitions ← bindingDefinitions tree
  (sortedBy id definitions.dedup).forM fun definition =>
    boundSuffixes.forM fun suffix => checkSymbol texts definition suffix

/-!
## Writing and comparing
-/

section Main

variable (hash : Sha256) (I : Interpreter)

/-- What both ways of {lit}`main` begin with. -/
def build (tree : Tree) : Except GenerationFailure (List (PyStr × Bytes)) := do
  let config ← loadConfig tree
  let outputs ← buildOutputs hash I config tree
  checkBindingCoverage tree outputs
  pure outputs

/-- The outputs that are not there as they should be. -/
def drift (tree : Tree) (outputs : List (PyStr × Bytes)) : List PyStr :=
  (outputs.filter fun output => tree.lookup output.fst ≠ some output.snd).map Prod.fst

/-- What is below {lit}`ROOT`: files, and directories, which are none. -/
structure Disk where
  files : Tree
  directories : PyStr -> Bool
  apart : forall path, directories path = true -> files.lookup path = none

/-- {lit}`main` with {lit}`--check` exits with 0 if this is empty, and with 1 else.
A directory is there and cannot be read. -/
def check (disk : Disk) : Except GenerationFailure (List PyStr) := do
  let outputs ← build hash I disk.files
  if outputs.any (fun output => disk.directories output.fst) = true then
    .error .osError
  else pure (drift disk.files outputs)

/-- {lit}`output.parent.mkdir` and {lit}`output.write_bytes`, and whether they work. -/
structure FileSystem where
  save : PyStr -> Bytes -> Disk -> Bool × Disk

/-- What is written is there, and nothing else is touched.  A write that fails may
leave anything at its path. -/
structure FileSystem.Lawful (fs : FileSystem) : Prop where
  saved : forall path bytes disk, (fs.save path bytes disk).1 = true ->
    (fs.save path bytes disk).2.files.lookup path = some bytes
  framed : forall path bytes disk other, other ≠ path ->
    (fs.save path bytes disk).2.files.lookup other = disk.files.lookup other

variable (fs : FileSystem)

def writeAll : List (PyStr × Bytes) -> Disk -> Except GenerationFailure Unit × Disk
  | [], disk => (.ok (), disk)
  | (path, bytes) :: rest, disk =>
      match fs.save path bytes disk with
      | (true, next) => writeAll rest next
      | (false, next) => (.error .osError, next)

/-- {lit}`main`, and what it leaves. -/
def generate (disk : Disk) : Except GenerationFailure Unit × Disk :=
  match build hash I disk.files with
  | .ok outputs => writeAll fs outputs disk
  | .error e => (.error e, disk)

end Main

/-!
## What the outputs depend on
-/

section Inputs

variable {hash : Sha256} {I : Interpreter} {tree other : Tree}

/-- The configuration, the published definitions, the templates and the sources. -/
def IsInput (tree : Tree) (path : PyStr) : Prop :=
  path = configPath ∨ path ∈ definitionPaths ∨
    exists config, loadConfig tree = .ok config ∧
      (config.isSource path = true ∨
        path ∈ config.bindingOutputs.map BindingOutput.template)

/-- A path among the inputs of a configuration, if there is one. -/
def configured (path : PyStr) : Except GenerationFailure GenerationConfig -> Bool
  | .ok config => config.isSource path ||
      (config.bindingOutputs.map BindingOutput.template).contains path
  | .error _ => false

theorem isInput_iff {path : PyStr} : IsInput tree path <->
    path = configPath ∨ path ∈ definitionPaths ∨
      configured path (loadConfig tree) = true := by
  unfold IsInput
  cases loadConfig tree with
  | error e => simp [configured]
  | ok config => simp [configured]

instance (tree : Tree) (path : PyStr) : Decidable (IsInput tree path) :=
  decidable_of_iff _ isInput_iff.symm

def SameInputs (tree other : Tree) : Prop :=
  forall path, IsInput tree path -> other.lookup path = tree.lookup path

theorem readBytes_congr {path : PyStr} (h : other.lookup path = tree.lookup path) :
    readBytes other path = readBytes tree path := by
  unfold readBytes
  rw [h]

theorem readJson_congr {path : PyStr} (h : other.lookup path = tree.lookup path) :
    readJson other path = readJson tree path := by
  unfold readJson
  rw [readBytes_congr h]

theorem SameInputs.loadConfig (h : SameInputs tree other) :
    loadConfig other = loadConfig tree := by
  unfold DeviceFoundation.loadConfig
  rw [readJson_congr (h configPath (Or.inl rfl))]

theorem sourceFiles_congr {config : GenerationConfig}
    (h : forall path, config.isSource path = true ->
      other.lookup path = tree.lookup path) :
    sourceFiles config other = sourceFiles config tree :=
  congrArg Dict.entries (Dict.restrict_congr h)

theorem mapM_congr_mem {α β : Type} {ε : Type} {f g : α -> Except ε β} {items : List α}
    (h : forall a, a ∈ items -> f a = g a) : items.mapM f = items.mapM g := by
  induction items with
  | nil => rfl
  | cons a rest ih =>
      rw [List.mapM_cons, List.mapM_cons, h a List.mem_cons_self,
        ih fun b hb => h b (List.mem_cons_of_mem a hb)]

theorem addBindings_congr {bindings : List BindingOutput}
    {outputs : List (PyStr × Bytes)}
    (h : forall binding, binding ∈ bindings ->
      other.lookup binding.template = tree.lookup binding.template) :
    bindings.foldlM (addBinding other) outputs =
      bindings.foldlM (addBinding tree) outputs := by
  induction bindings generalizing outputs with
  | nil => rfl
  | cons binding rest ih =>
      have hadd : addBinding other outputs binding = addBinding tree outputs binding := by
        unfold addBinding
        rw [readBytes_congr (h binding List.mem_cons_self)]
      rw [List.foldlM_cons, List.foldlM_cons, hadd]
      apply bind_congr
      intro next
      exact ih fun b hb => h b (List.mem_cons_of_mem binding hb)

theorem SameInputs.bindingDefinitions (h : SameInputs tree other) :
    bindingDefinitions other = bindingDefinitions tree := by
  unfold DeviceFoundation.bindingDefinitions
  rw [mapM_congr_mem]
  intro path hpath
  unfold definitionsIn
  rw [readJson_congr (h path (Or.inr (Or.inl hpath)))]

/-- Nothing but its inputs has a say in what the tool builds. -/
theorem SameInputs.build (h : SameInputs tree other) :
    build hash I other = build hash I tree := by
  unfold DeviceFoundation.build
  rw [h.loadConfig]
  cases hconfig : DeviceFoundation.loadConfig tree with
  | error e => rfl
  | ok config =>
      have hsources : sourceFiles config other = sourceFiles config tree :=
        sourceFiles_congr fun path hpath =>
          h path (Or.inr (Or.inr ⟨config, hconfig, Or.inl hpath⟩))
      have houtputs : buildOutputs hash I config other =
          buildOutputs hash I config tree := by
        unfold buildOutputs buildCatalog
        rw [hsources]
        apply bind_congr
        intro catalog
        apply bind_congr
        intro text
        exact addBindings_congr fun binding hbinding =>
          h binding.template
            (Or.inr (Or.inr ⟨config, hconfig, Or.inr (List.mem_map_of_mem hbinding)⟩))
      have hcoverage : forall outputs, checkBindingCoverage other outputs =
          checkBindingCoverage tree outputs := by
        intro outputs
        unfold checkBindingCoverage
        rw [h.bindingDefinitions]
      show (buildOutputs hash I config other >>= fun outputs =>
          checkBindingCoverage other outputs >>= fun _ => pure outputs) =
        buildOutputs hash I config tree >>= fun outputs =>
          checkBindingCoverage tree outputs >>= fun _ => pure outputs
      rw [houtputs]
      apply bind_congr
      intro outputs
      rw [hcoverage]

end Inputs

/-!
## Drift
-/

section Drift

variable {hash : Sha256} {I : Interpreter} {tree : Tree}
variable {outputs : List (PyStr × Bytes)}

theorem keys_assignOutput {path : PyStr} {bytes : Bytes} {key : PyStr}
    (h : key ∈ (assignOutput path bytes outputs).map Prod.fst) :
    key = path ∨ key ∈ outputs.map Prod.fst := by
  induction outputs with
  | nil => exact Or.inl (List.mem_singleton.mp h)
  | cons output rest ih =>
      unfold assignOutput at h
      split at h
      · rw [List.map_cons] at h ⊢
        exact (List.mem_cons.mp h).imp_right (List.mem_cons_of_mem _)
      · rw [List.map_cons] at h ⊢
        rcases List.mem_cons.mp h with heq | h
        · exact Or.inr (heq ▸ List.mem_cons_self)
        · exact (ih h).imp_right (List.mem_cons_of_mem _)

theorem assignOutput_nodup {path : PyStr} {bytes : Bytes}
    (h : (outputs.map Prod.fst).Nodup) :
    ((assignOutput path bytes outputs).map Prod.fst).Nodup := by
  induction outputs with
  | nil => exact List.nodup_singleton path
  | cons output rest ih =>
      rw [List.map_cons, List.nodup_cons] at h
      unfold assignOutput
      split
      · rename_i heq
        rw [List.map_cons, List.nodup_cons]
        exact heq ▸ h
      · rename_i hne
        rw [List.map_cons, List.nodup_cons]
        refine ⟨fun hmem => ?_, ih h.right⟩
        rcases keys_assignOutput hmem with heq | hmem
        · exact hne heq
        · exact h.left hmem

theorem addBindings_nodup {bindings : List BindingOutput}
    {start : List (PyStr × Bytes)} (hstart : (start.map Prod.fst).Nodup)
    (h : bindings.foldlM (addBinding tree) start = .ok outputs) :
    (outputs.map Prod.fst).Nodup := by
  induction bindings generalizing start with
  | nil =>
      cases h
      exact hstart
  | cons binding rest ih =>
      rw [List.foldlM_cons] at h
      rcases bind_eq_ok.mp h with ⟨next, hnext, hrest⟩
      rcases bind_eq_ok.mp hnext with ⟨template, _, hassign⟩
      cases hassign
      exact ih (assignOutput_nodup hstart) hrest

theorem build_nodup (h : build hash I tree = .ok outputs) :
    (outputs.map Prod.fst).Nodup := by
  rcases bind_eq_ok.mp h with ⟨config, _, h⟩
  rcases bind_eq_ok.mp h with ⟨built, hbuilt, h⟩
  rcases bind_eq_ok.mp h with ⟨_, _, h⟩
  cases h
  rcases bind_eq_ok.mp hbuilt with ⟨catalog, _, h⟩
  rcases bind_eq_ok.mp h with ⟨text, _, h⟩
  have hstart : ([(catalogPath, text)].map Prod.fst).Nodup :=
    List.nodup_singleton catalogPath
  exact addBindings_nodup hstart h

theorem raising_eq_ok {α : Type} {x : Except PyException α} {a : α} :
    raising x = .ok a <-> x = .ok a := by
  cases x with
  | ok b => exact ⟨fun h => congrArg _ (Except.ok.inj h),
      fun h => congrArg _ (Except.ok.inj h)⟩
  | error e => exact iff_of_false nofun nofun

/-- Every published definition has its symbol in every language. -/
def covers : Except PyException (List (PyStr × PyStr)) ->
    Except GenerationFailure (List PyStr) -> Bool
  | .ok texts, .ok definitions => definitions.all fun definition =>
      boundSuffixes.all fun suffix =>
        decide (checkSymbol texts definition suffix = .ok ())
  | _, _ => false

theorem checkBindingCoverage_eq_ok :
    checkBindingCoverage tree outputs = .ok () <->
      covers (rendered outputs) (bindingDefinitions tree) = true := by
  unfold checkBindingCoverage
  simp only [bind_eq_ok, raising_eq_ok, forM_eq_ok, mem_sortedBy, List.mem_dedup]
  cases rendered outputs with
  | error e => exact iff_of_false (by rintro ⟨_, h, _⟩; cases h) nofun
  | ok texts => cases bindingDefinitions tree with
    | error e => exact iff_of_false (by rintro ⟨_, _, _, h, _⟩; cases h) nofun
    | ok definitions =>
        simp [covers]

theorem drift_eq_nil : drift tree outputs = [] <->
    forall output, output ∈ outputs -> tree.lookup output.fst = some output.snd := by
  unfold drift
  rw [List.map_eq_nil_iff, List.filter_eq_nil_iff]
  simp

/-- Writing files that are there already changes nothing. -/
theorem update_eq_self (hnodup : (outputs.map Prod.fst).Nodup) :
    tree.update outputs = tree <-> drift tree outputs = [] := by
  rw [drift_eq_nil]
  constructor
  · intro h output hmem
    have hlookup := Dict.lookup_update_nodup (d := tree) hnodup output.fst
    rw [lookup_of_mem_nodup hnodup hmem, h] at hlookup
    exact hlookup
  · intro h
    apply Dict.ext_lookup
    intro key
    rw [Dict.lookup_update_nodup hnodup]
    cases hlookup : outputs.lookup key with
    | none => exact Option.none_or
    | some bytes => exact (h (key, bytes) (mem_of_lookup_eq hlookup)).symm

/-!
## Work in the directory
-/

/-- What happens in the directory: the tool runs, or somebody changes something. -/
inductive Work where
  | generate
  | edit (change : Disk -> Disk)

variable {fs : FileSystem} {disk left : Disk}

variable (hash I fs) in
def Work.apply (disk : Disk) : Work -> Disk
  | .generate => (DeviceFoundation.generate hash I fs disk).2
  | .edit change => change disk

/-- The inputs of the tool in this tree are left alone. -/
def Work.Spares (tree : Tree) : Work -> Prop
  | .generate => True
  | .edit change => forall disk path, IsInput tree path ->
      (change disk).files.lookup path = disk.files.lookup path

variable (hash I fs) in
def work (disk : Disk) (steps : List Work) : Disk :=
  steps.foldl (Work.apply hash I fs) disk

theorem lookup_writeAll (hfs : fs.Lawful) {path : PyStr}
    (h : path ∉ outputs.map Prod.fst) :
    (writeAll fs outputs disk).2.files.lookup path = disk.files.lookup path := by
  induction outputs generalizing disk with
  | nil => rfl
  | cons output rest ih =>
      rw [List.map_cons, List.mem_cons, not_or] at h
      have hframed := hfs.framed output.fst output.snd disk path h.left
      unfold writeAll
      cases hsave : fs.save output.fst output.snd disk with
      | mk worked next =>
          rw [hsave] at hframed
          cases worked with
          | true => exact (ih h.right).trans hframed
          | false => exact hframed

theorem lookup_writeAll_ok (hfs : fs.Lawful) (hnodup : (outputs.map Prod.fst).Nodup)
    (h : (writeAll fs outputs disk).1 = .ok ()) :
    forall output, output ∈ outputs ->
      (writeAll fs outputs disk).2.files.lookup output.fst = some output.snd := by
  induction outputs generalizing disk with
  | nil => exact fun _ hmem => absurd hmem List.not_mem_nil
  | cons output rest ih =>
      rw [List.map_cons, List.nodup_cons] at hnodup
      have hsaved := hfs.saved output.fst output.snd disk
      unfold writeAll at h ⊢
      cases hsave : fs.save output.fst output.snd disk with
      | mk worked next =>
          rw [hsave] at h hsaved
          cases worked with
          | false => cases h
          | true =>
              intro other hmem
              rcases List.mem_cons.mp hmem with heq | hmem
              · rw [heq]
                exact (lookup_writeAll hfs hnodup.left).trans (hsaved rfl)
              · exact ih hnodup.right h other hmem

/-- Where every write works, the outputs are there and the rest is as it was. -/
theorem files_writeAll (hfs : fs.Lawful) (hnodup : (outputs.map Prod.fst).Nodup)
    (h : (writeAll fs outputs disk).1 = .ok ()) :
    (writeAll fs outputs disk).2.files = disk.files.update outputs := by
  apply Dict.ext_lookup
  intro path
  rw [Dict.lookup_update_nodup hnodup]
  cases hlookup : outputs.lookup path with
  | some bytes =>
      exact lookup_writeAll_ok hfs hnodup h (path, bytes) (mem_of_lookup_eq hlookup)
  | none =>
      rw [Option.none_or]
      apply lookup_writeAll hfs
      intro hmem
      rcases List.mem_map.mp hmem with ⟨output, houtput, heq⟩
      rw [← heq, lookup_of_mem_nodup hnodup houtput] at hlookup
      cases hlookup

theorem generate_of_build (h : build hash I disk.files = .ok outputs) :
    generate hash I fs disk = writeAll fs outputs disk := by
  unfold generate
  rw [h]

theorem check_of_build (h : build hash I disk.files = .ok outputs) :
    check hash I disk =
      if outputs.any (fun output => disk.directories output.fst) = true then
        .error .osError
      else .ok (drift disk.files outputs) := by
  unfold check
  rw [h]
  rfl

/-- The check is silent where every output is there; then none is a directory. -/
theorem check_eq_nil (h : build hash I disk.files = .ok outputs) :
    check hash I disk = .ok [] <-> forall output, output ∈ outputs ->
      disk.files.lookup output.fst = some output.snd := by
  rw [check_of_build h, ← drift_eq_nil]
  constructor
  · intro hcheck
    split at hcheck
    · cases hcheck
    · exact Except.ok.inj hcheck
  · intro hdrift
    rw [if_neg, hdrift]
    intro hany
    rcases List.any_eq_true.mp hany with ⟨output, hmem, hdirectory⟩
    have hmissing := disk.apart output.fst hdirectory
    rw [drift_eq_nil.mp hdrift output hmem] at hmissing
    cases hmissing

/-- A path, or a pattern, that stays below the root. -/
def staysBelow (path : PyStr) : Bool :=
  path.head? != some (codePoint '/') && !(pathParts path).contains (str "..")

def GenerationConfig.staysBelow (config : GenerationConfig) : Bool :=
  config.sourceGlobs.all DeviceFoundation.staysBelow &&
    config.bindingOutputs.all fun binding =>
      DeviceFoundation.staysBelow binding.template &&
        DeviceFoundation.staysBelow binding.path

/-- No output is an input, and no path leaves the directory. -/
structure Apart (tree : Tree) (outputs : List (PyStr × Bytes)) : Prop where
  outputs : forall output, output ∈ outputs -> ¬ IsInput tree output.fst
  below : forall config, loadConfig tree = .ok config -> config.staysBelow = true

theorem sameInputs_apply {step : Work} (hfs : fs.Lawful)
    (hbuild : build hash I disk.files = .ok outputs)
    (hapart : Apart disk.files outputs) (hstep : step.Spares disk.files)
    (h : SameInputs disk.files left.files) :
    SameInputs disk.files (step.apply hash I fs left).files := by
  intro path hpath
  rw [← h path hpath]
  cases step with
  | generate =>
      show (generate hash I fs left).2.files.lookup path = left.files.lookup path
      rw [generate_of_build (h.build.trans hbuild)]
      apply lookup_writeAll hfs
      intro hmem
      rcases List.mem_map.mp hmem with ⟨output, houtput, heq⟩
      exact hapart.outputs output houtput (heq ▸ hpath)
  | edit change => exact hstep left path hpath

theorem sameInputs_work {steps : List Work} (hfs : fs.Lawful)
    (hbuild : build hash I disk.files = .ok outputs)
    (hapart : Apart disk.files outputs)
    (hsteps : forall step, step ∈ steps -> step.Spares disk.files) :
    SameInputs disk.files (work hash I fs disk steps).files := by
  unfold work
  refine List.foldlRecOn steps (Work.apply hash I fs)
    (motive := fun left => SameInputs disk.files left.files) (fun path _ => rfl) ?_
  intro other h step hmem
  exact sameInputs_apply hfs hbuild hapart (hsteps step hmem) h

/-- Whatever is done in the directory that leaves the inputs alone, the check names
exactly the outputs that are not as they were built, unless one of them is a
directory.  Generating touches nothing but the outputs; where it works it mends them
all, and it changes nothing exactly where the check was silent. -/
theorem check_reports_drift (hfs : fs.Lawful)
    (hbuild : build hash I disk.files = .ok outputs)
    (hapart : Apart disk.files outputs) {steps : List Work}
    (hsteps : forall step, step ∈ steps -> step.Spares disk.files) :
    let left := work hash I fs disk steps
    let made := generate hash I fs left
    check hash I left =
        (if outputs.any (fun output => left.directories output.fst) = true then
          .error .osError
        else .ok (drift left.files outputs)) ∧
      (forall path, path ∉ outputs.map Prod.fst ->
        made.2.files.lookup path = left.files.lookup path) ∧
      (made.1 = .ok () -> check hash I made.2 = .ok [] ∧
        (check hash I left = .ok [] <-> made.2.files = left.files)) := by
  have hsame := sameInputs_work hfs hbuild hapart hsteps
  have hwork : build hash I (work hash I fs disk steps).files = .ok outputs :=
    hsame.build.trans hbuild
  have hagain : build hash I
      (generate hash I fs (work hash I fs disk steps)).2.files = .ok outputs :=
    (sameInputs_apply hfs hbuild hapart
      (show Work.Spares disk.files .generate from trivial) hsame).build.trans hbuild
  have hnodup := build_nodup hbuild
  have hmade : generate hash I fs (work hash I fs disk steps) =
      writeAll fs outputs (work hash I fs disk steps) := generate_of_build hwork
  refine ⟨check_of_build hwork, ?_, ?_⟩
  · intro path hpath
    rw [hmade]
    exact lookup_writeAll hfs hpath
  · intro hworked
    rw [hmade] at hworked hagain ⊢
    have hfiles := files_writeAll hfs hnodup hworked
    have hclean := lookup_writeAll_ok hfs hnodup hworked
    refine ⟨check_eq_nil hagain |>.mpr hclean, ?_⟩
    rw [check_eq_nil hwork, hfiles, update_eq_self hnodup, drift_eq_nil]

end Drift

/- The sources of the contract directory and what it generates. -/
example :
    let config : GenerationConfig := ⟨["**/*.schema.json", "examples/**/*.json",
      "golden/*.json", "profile/*.json", "state-vectors/*.json", "evidence/*.json",
      "requirements/*.json", "baseline/*.json", "conformance/*.py",
      "generation/templates/*", "generation/config.json",
      "generation/generate.py"].map str, .null, .null, []⟩
    ["generated/catalog.json", "generated/python/device_foundation_v1.py",
      "generated/dart/device_foundation_v1.dart",
      "generated/cpp/device_foundation_v1_generated.h"].all fun path =>
        !config.isSource (str path) := by decide +kernel

/-!
### A directory with three schemas and one template
-/

def textBytes (parts : List PyStr) : Bytes := parts.flatten.flatMap utf8Char

def sampleTree : Tree := Dict.ofList [
  (configPath, textBytes (
    ["\x7b\"source_globs\":[\"*/*.schema.json\"],", "\"generator\":0,", "\"generator_version\":0,",
      "\"binding_outputs\":[", "\x7b\"template\":\"t\",", "\"path\":\"a.py\"\x7d,",
      "\x7b\"template\":\"t\",", "\"path\":\"a.dart\"\x7d,", "\x7b\"template\":\"t\",",
      "\"path\":\"a.h\"\x7d]\x7d"].map str)),
  (str "admission/schemas.schema.json", textBytes [str "\x7b\"$defs\":\x7b\x7d\x7d"]),
  (str "delivery-port/schemas.schema.json", textBytes [str "\x7b\"$defs\":\x7b\x7d\x7d"]),
  (str "events/schemas.schema.json", textBytes [str "\x7b\"$defs\":\x7b\x7d\x7d"]),
  (str "t", textBytes (definedByHand.map fun definition => definition ++ str "V1 "))]

def builtFrom (tree : Tree) : Except GenerationFailure (List (PyStr × Bytes)) := do
  let config ← loadConfig tree
  buildOutputs sha256 asciiInterpreter config tree

def sampleOutputs : List (PyStr × Bytes) :=
  ((builtFrom sampleTree).toOption).getD []

theorem sampleTree_build :
    build sha256 asciiInterpreter sampleTree = .ok sampleOutputs := by
  have hok : (builtFrom sampleTree).isOk = true ∧
      covers (rendered sampleOutputs) (bindingDefinitions sampleTree) = true := by
    decide +kernel
  have hbuilt : builtFrom sampleTree = .ok sampleOutputs := by
    rcases exists_of_isOk hok.left with ⟨outputs, houtputs⟩
    unfold sampleOutputs
    rw [houtputs]
    rfl
  rcases bind_eq_ok.mp hbuilt with ⟨config, hconfig, houtputs⟩
  exact bind_eq_ok.mpr ⟨config, hconfig, bind_eq_ok.mpr ⟨sampleOutputs, houtputs,
    bind_eq_ok.mpr ⟨(), checkBindingCoverage_eq_ok.mpr hok.right, rfl⟩⟩⟩

theorem sampleTree_apart : Apart sampleTree sampleOutputs where
  outputs := by
    have hpaths : forall output, output ∈ sampleOutputs ->
        ¬ IsInput sampleTree output.fst := by
      decide +kernel
    exact hpaths
  below config hconfig := by
    have hbelow : ((loadConfig sampleTree).toOption.all fun config =>
        config.staysBelow) = true := by
      decide +kernel
    rw [hconfig] at hbelow
    exact hbelow

/-- No directory is among what is looked at. -/
def sampleDisk : Disk :=
  ⟨sampleTree, fun _ => false, nofun⟩

/-- A file is gone, if it was there. -/
def Disk.remove (path : PyStr) (disk : Disk) : Disk where
  files := disk.files.restrict fun key => key != path
  directories := disk.directories
  apart key hkey := by
    rw [Dict.lookup_restrict, disk.apart key hkey, ite_self]

/-- Only a directory is in the way of a file. -/
def roomy : FileSystem where
  save path bytes disk :=
    if h : disk.directories path = true then (false, disk)
    else (true,
      { files := disk.files.insert path bytes
        directories := disk.directories
        apart := fun key hkey => by
          rw [Dict.lookup_insert, if_neg fun heq : key = path => h (heq ▸ hkey)]
          exact disk.apart key hkey })

theorem roomy_lawful : roomy.Lawful where
  saved path bytes disk h := by
    unfold roomy at h ⊢
    by_cases hdirectory : disk.directories path = true
    · simp [hdirectory] at h
    · simp [hdirectory, Dict.lookup_insert]
  framed path bytes disk other hne := by
    unfold roomy
    by_cases hdirectory : disk.directories path = true
    · simp [hdirectory]
    · simp [hdirectory, Dict.lookup_insert, hne]

/-- Somebody loses the catalog. -/
theorem check_reports_drift_lost :
    let left := work sha256 asciiInterpreter roomy sampleDisk
      [.generate, .edit (Disk.remove catalogPath)]
    check sha256 asciiInterpreter left =
      if sampleOutputs.any (fun output => left.directories output.fst) = true then
        .error .osError
      else .ok (drift left.files sampleOutputs) := by
  have hcatalog : ¬ IsInput sampleTree catalogPath := by decide +kernel
  have hbuild : build sha256 asciiInterpreter sampleDisk.files = .ok sampleOutputs :=
    sampleTree_build
  have hapart : Apart sampleDisk.files sampleOutputs := sampleTree_apart
  refine (check_reports_drift roomy_lawful hbuild hapart fun step hstep => ?_).left
  simp only [List.mem_cons, List.not_mem_nil, or_false] at hstep
  rcases hstep with rfl | rfl
  · trivial
  · intro disk path hpath
    show (disk.files.restrict _).lookup path = disk.files.lookup path
    rw [Dict.lookup_restrict, if_pos]
    exact bne_iff_ne.mpr fun heq => hcatalog (heq ▸ hpath)

/-!
## What the digest of the sources says
-/

section Digest

variable {hash : Sha256}

theorem val_of_mem_utf8Char {b : Byte} {c : CodePoint} (hb : b.val < 0x80)
    (h : b ∈ utf8Char c) : b.val = c.val := by
  have hc := c.isLt
  unfold utf8Char at h
  split at h
  · rw [List.mem_singleton.mp h, val_byte]
    omega
  · split at h
    · simp only [List.mem_cons, List.not_mem_nil, or_false] at h
      rcases h with rfl | rfl
      · rw [val_byte] at hb ⊢
        omega
      · rw [val_byte] at hb ⊢
        omega
    · split at h
      · simp only [List.mem_cons, List.not_mem_nil, or_false] at h
        rcases h with rfl | rfl | rfl
        · rw [val_byte] at hb ⊢
          omega
        · rw [val_byte] at hb ⊢
          omega
        · rw [val_byte] at hb ⊢
          omega
      · simp only [List.mem_cons, List.not_mem_nil, or_false] at h
        rcases h with rfl | rfl | rfl | rfl
        · rw [val_byte] at hb ⊢
          omega
        · rw [val_byte] at hb ⊢
          omega
        · rw [val_byte] at hb ⊢
          omega
        · rw [val_byte] at hb ⊢
          omega

/-- An ASCII octet in the encoding of a text is a character of the text. -/
theorem mem_of_mem_encodeText {text : PyStr} {bytes : Bytes} {n : Nat} (hn : n < 0x80)
    (htext : encodeText text = .ok bytes) (h : byte n ∈ bytes) :
    Fin.ofNat 0x110000 n ∈ text := by
  rw [encodeText_eq_ok, encodeUtf8_eq_some] at htext
  rw [← htext.right] at h
  rcases List.mem_flatMap.mp h with ⟨c, hc, hmem⟩
  have hval := val_of_mem_utf8Char (by rw [val_byte]; omega) hmem
  rw [val_byte] at hval
  have heq : Fin.ofNat 0x110000 n = c := by
    apply Fin.ext
    show n % 0x110000 = c.val
    omega
  rw [heq]
  exact hc

/-- No file name has a NUL in it. -/
def NulFree (files : List (PyStr × Bytes)) : Prop :=
  forall file, file ∈ files -> (0 : CodePoint) ∉ file.fst

instance (files : List (PyStr × Bytes)) : Decidable (NulFree files) :=
  inferInstanceAs (Decidable (forall file, file ∈ files -> _))

/-- What the hash has to tell apart here. -/
structure TellsApart (hash : Sha256) (files files' : List (PyStr × Bytes)) : Prop where
  contents : forall file file', file ∈ files -> file' ∈ files' ->
    hash.digest file.snd = hash.digest file'.snd -> file.snd = file'.snd
  inputs : forall input input', digestInput hash files = .ok input ->
    digestInput hash files' = .ok input' ->
      hash.digest input = hash.digest input' -> input = input'

theorem digestLine_eq_ok {file : PyStr × Bytes} {line : Bytes} :
    digestLine hash file = .ok line <->
      exists relative digest, encodeText file.fst = .ok relative ∧
        encodeText (hash.hexdigest file.snd) = .ok digest ∧
        line = relative ++ 0 :: (digest ++ [0x0A]) := by
  unfold digestLine
  simp only [bind_eq_ok]
  constructor
  · intro h
    rcases h with ⟨relative, hrelative, digest, hdigest, hline⟩
    refine ⟨relative, digest, hrelative, hdigest, ?_⟩
    rw [← Except.ok.inj hline]
    simp
  · intro h
    rcases h with ⟨relative, digest, hrelative, hdigest, rfl⟩
    refine ⟨relative, hrelative, digest, hdigest, ?_⟩
    simp [pure, Except.pure]

theorem newline_not_mem_hexdigest {message : Bytes} :
    codePoint '\n' ∉ hash.hexdigest message := by
  intro h
  rcases mem_hex h with ⟨n, hn, heq⟩
  exact hexDigit_ne_newline hn heq.symm

/-- Two lines in front of whatever follows can be told apart. -/
theorem digestLine_append_inj {file file' : PyStr × Bytes} {line line' u v : Bytes}
    (hnul : (0 : CodePoint) ∉ file.fst) (hnul' : (0 : CodePoint) ∉ file'.fst)
    (hline : digestLine hash file = .ok line)
    (hline' : digestLine hash file' = .ok line') (h : line ++ u = line' ++ v) :
    file.fst = file'.fst ∧ hash.digest file.snd = hash.digest file'.snd ∧ u = v := by
  rcases digestLine_eq_ok.mp hline with ⟨relative, digest, hrelative, hdigest, rfl⟩
  rcases digestLine_eq_ok.mp hline' with
    ⟨relative', digest', hrelative', hdigest', rfl⟩
  have hfree : (0 : Byte) ∉ relative := fun hmem =>
    hnul (mem_of_mem_encodeText (by decide) hrelative hmem)
  have hfree' : (0 : Byte) ∉ relative' := fun hmem =>
    hnul' (mem_of_mem_encodeText (by decide) hrelative' hmem)
  have hplain : (0x0A : Byte) ∉ digest := fun hmem =>
    newline_not_mem_hexdigest (mem_of_mem_encodeText (by decide) hdigest hmem)
  have hplain' : (0x0A : Byte) ∉ digest' := fun hmem =>
    newline_not_mem_hexdigest (mem_of_mem_encodeText (by decide) hdigest' hmem)
  rw [List.append_assoc, List.append_assoc, List.cons_append, List.cons_append,
    List.append_assoc, List.append_assoc] at h
  rcases Coding.append_sep_inj h (by
    rw [List.count_eq_zero_of_not_mem hfree, List.count_eq_zero_of_not_mem hfree'])
    with ⟨hpath, hrest⟩
  rcases Coding.append_sep_inj hrest (by
    rw [List.count_eq_zero_of_not_mem hplain, List.count_eq_zero_of_not_mem hplain'])
    with ⟨hsame, huv⟩
  rw [encodeText_eq_ok] at hrelative hrelative' hdigest hdigest'
  refine ⟨encodeUtf8_inj hrelative (hpath ▸ hrelative'), ?_, huv⟩
  exact Sha256.hexdigest_eq_iff.mp (encodeUtf8_inj hdigest (hsame ▸ hdigest'))

theorem digestInput_inj {files files' : List (PyStr × Bytes)} {input : Bytes}
    (hnul : NulFree files) (hnul' : NulFree files')
    (hcontents : forall file file', file ∈ files -> file' ∈ files' ->
      hash.digest file.snd = hash.digest file'.snd -> file.snd = file'.snd)
    (h : digestInput hash files = .ok input)
    (h' : digestInput hash files' = .ok input) : files = files' := by
  have hempty : forall {file : PyStr × Bytes} {rest : List (PyStr × Bytes)},
      digestInput hash (file :: rest) ≠ .ok [] := by
    intro file rest hcons
    rcases bind_eq_ok.mp hcons with ⟨line, hline, hcons⟩
    rcases bind_eq_ok.mp hcons with ⟨lines, _, hcons⟩
    rcases digestLine_eq_ok.mp hline with ⟨relative, digest, _, _, rfl⟩
    have hnil := Except.ok.inj hcons
    simp at hnil
  induction files generalizing files' input with
  | nil =>
      cases files' with
      | nil => rfl
      | cons file' rest' =>
          cases h
          exact absurd h' hempty
  | cons file rest ih =>
      cases files' with
      | nil =>
          cases h'
          exact absurd h hempty
      | cons file' rest' =>
          rcases bind_eq_ok.mp h with ⟨line, hline, h⟩
          rcases bind_eq_ok.mp h with ⟨lines, hlines, h⟩
          rcases bind_eq_ok.mp h' with ⟨line', hline', h'⟩
          rcases bind_eq_ok.mp h' with ⟨lines', hlines', h'⟩
          have hjoined : line ++ lines = line' ++ lines' :=
            (Except.ok.inj h).trans (Except.ok.inj h').symm
          rcases digestLine_append_inj (hnul file List.mem_cons_self)
            (hnul' file' List.mem_cons_self) hline hline' hjoined with
            ⟨hpath, hdigest, hsame⟩
          have hbytes := hcontents file file' List.mem_cons_self List.mem_cons_self
            hdigest
          rw [← hsame] at hlines'
          have hrest := ih (fun f hf => hnul f (List.mem_cons_of_mem file hf))
            (fun f hf => hnul' f (List.mem_cons_of_mem file' hf))
            (fun f f' hf hf' => hcontents f f' (List.mem_cons_of_mem file hf)
              (List.mem_cons_of_mem file' hf')) hlines hlines'
          rw [Prod.ext hpath hbytes, hrest]

theorem sourceDigest_eq_ok {files : List (PyStr × Bytes)} {digest : PyStr} :
    sourceDigest hash files = .ok digest <->
      exists input, digestInput hash files = .ok input ∧
        digest = str "sha256:" ++ hash.hexdigest input := by
  unfold sourceDigest
  rw [bind_eq_ok]
  constructor
  · intro hparts
    rcases hparts with ⟨input, hinput, h⟩
    exact ⟨input, hinput, (Except.ok.inj h).symm⟩
  · intro hparts
    rcases hparts with ⟨input, hinput, rfl⟩
    exact ⟨input, hinput, rfl⟩

/-- Two catalogs with one source digest are catalogs of the same files with the same
contents. -/
theorem source_digest_binds {config config' : GenerationConfig} {tree tree' : Tree}
    {catalog catalog' : Json} (hcatalog : buildCatalog hash config tree = .ok catalog)
    (hcatalog' : buildCatalog hash config' tree' = .ok catalog')
    (hnul : NulFree tree.entries) (hnul' : NulFree tree'.entries)
    (happart : TellsApart hash (sourceFiles config tree) (sourceFiles config' tree'))
    (hdigest : item catalog "source_digest" = item catalog' "source_digest") :
    sourceFiles config tree = sourceFiles config' tree' := by
  rcases bind_eq_ok.mp hcatalog with ⟨_, _, hcatalog⟩
  rcases bind_eq_ok.mp hcatalog' with ⟨_, _, hcatalog'⟩
  rcases bind_eq_ok.mp hcatalog with ⟨digest, hsources, hcatalog⟩
  rcases bind_eq_ok.mp hcatalog' with ⟨digest', hsources', hcatalog'⟩
  rw [raising_eq_ok] at hsources hsources'
  rw [← Except.ok.inj hcatalog, ← Except.ok.inj hcatalog'] at hdigest
  simp [item] at hdigest
  subst hdigest
  rcases sourceDigest_eq_ok.mp hsources with ⟨input, hinput, rfl⟩
  rcases sourceDigest_eq_ok.mp hsources' with ⟨input', hinput', hsame⟩
  have heq := happart.inputs input input' hinput hinput'
    (Sha256.hexdigest_eq_iff.mp (List.append_cancel_left hsame))
  rw [← heq] at hinput'
  exact digestInput_inj (fun file hfile => hnul file (List.mem_of_mem_filter hfile))
    (fun file hfile => hnul' file (List.mem_of_mem_filter hfile)) happart.contents
    hinput hinput'

/-!
### Three files and their neighbour
-/

def sourceTree : Tree := Dict.ofList [
  (str "admission/schemas.schema.json", textBytes [str "\x7b\"$defs\":\x7b\x7d\x7d"]),
  (str "golden/a.json", textBytes [str "[1]\n"]),
  (str "golden/b.json", [])]

def withReadme : Tree :=
  sourceTree.insert (str "README.md") (textBytes [str "# Contract\n"])

def jsonSources : GenerationConfig :=
  ⟨[str "**/*.json"], .str (str "generate.py"), .str (str "1.0"), []⟩

theorem sourceTree_apart :
    TellsApart sha256 sourceTree.entries sourceTree.entries where
  contents := by
    have hfiles : forall file, file ∈ sourceTree.entries ->
        forall file', file' ∈ sourceTree.entries ->
          sha256.digest file.snd = sha256.digest file'.snd -> file.snd = file'.snd := by
      decide +kernel
    exact fun file file' hfile hfile' => hfiles file hfile file' hfile'
  inputs input input' h h' _ := Except.ok.inj (h.symm.trans h')

theorem source_digest_binds_neighbour :
    sourceFiles jsonSources sourceTree = sourceFiles jsonSources withReadme := by
  have hsources : sourceFiles jsonSources sourceTree = sourceTree.entries := by
    decide +kernel
  have hsources' : sourceFiles jsonSources withReadme = sourceTree.entries := by
    decide +kernel
  have hcatalog : buildCatalog sha256 jsonSources sourceTree =
      buildCatalog sha256 jsonSources withReadme := by
    unfold buildCatalog
    rw [hsources, hsources']
  have hok : (buildCatalog sha256 jsonSources sourceTree).isOk = true := by
    decide +kernel
  rcases exists_of_isOk hok with ⟨catalog, hbuilt⟩
  exact source_digest_binds hbuilt (hcatalog ▸ hbuilt)
    (by decide +kernel) (by decide +kernel)
    (by rw [hsources, hsources']; exact sourceTree_apart) rfl

end Digest

end DeviceFoundation
end EidolonSdk
