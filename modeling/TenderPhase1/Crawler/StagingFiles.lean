import Mathlib.Logic.Function.Basic
import TenderPhase1.Foundation.JsonText

/-!
# Items staged in files

With the `jsonl` backend `WriterDispatchPipeline` appends each item to the file of its type, one JSON text a line.
Every run opens the files again and appends to what the runs before have left.
-/

namespace TenderPhase1.Crawler

open JsonText

variable {Float : Type}

/-! ## Items -/

/-- `ItemAdapter(item).asdict()` -/
structure ItemDict (Float : Type) where
  entries : List (String × JsonText.Value Float)
  distinct : (JsonText.Value.dict entries).Distinct

inductive ItemType where
  | rawDocument
  | tenderNotice
  | noticeVersion
  | tenderAttachment
  | crawlError
  deriving DecidableEq, Repr

def ItemType.text : ItemType → String
  | .rawDocument => "raw_document"
  | .tenderNotice => "tender_notice"
  | .noticeVersion => "notice_version"
  | .tenderAttachment => "tender_attachment"
  | .crawlError => "crawl_error"

def itemTypes : List ItemType := [.rawDocument, .tenderNotice, .noticeVersion, .tenderAttachment, .crawlError]

/-- The branch of `process_item`; an item without a type, or with another one, is passed on. -/
def getItemType (item : ItemDict Float) : Option ItemType :=
  match item.entries.lookup "item_type" with
  | some (.str text) => itemTypes.find? (·.text = text)
  | _ => none

/-! ## The writers -/

/-- The file that a writer appends the items of a type to. -/
def ItemType.fileName : ItemType → String
  | .rawDocument => "raw_document.jsonl"
  | .tenderNotice => "tender_notice.jsonl"
  | .noticeVersion => "notice_version.jsonl"
  | .tenderAttachment => "tender_attachment.jsonl"
  | .crawlError => "crawl_error.jsonl"

/-- The items that have a writer in common, which opens the files of all of them. -/
def ItemType.ofWriter : ItemType → List ItemType
  | .rawDocument => [.rawDocument]
  | .tenderNotice | .noticeVersion | .tenderAttachment => [.tenderNotice, .noticeVersion, .tenderAttachment]
  | .crawlError => [.crawlError]

/-- The output directory, by file name, and the files that are open. -/
structure StagingDir where
  files : String → Option (List Char)
  opened : ItemType → Bool

namespace StagingDir

def empty : StagingDir := ⟨fun _ ↦ none, fun _ ↦ false⟩

/-- What a file holds; a file that is not there holds nothing. -/
def contents (dir : StagingDir) (type : ItemType) : List Char := (dir.files type.fileName).getD []

/-- `open("a")`, which creates a file that is not there. -/
def openFile (dir : StagingDir) (type : ItemType) : StagingDir where
  files := Function.update dir.files type.fileName (some (dir.contents type))
  opened := Function.update dir.opened type true

def openFiles (dir : StagingDir) (types : List ItemType) : StagingDir := types.foldl openFile dir

/-- `WriterBundle.open` -/
def openAll (dir : StagingDir) : StagingDir := dir.openFiles itemTypes

/-- `WriterBundle.close` -/
def closeAll (dir : StagingDir) : StagingDir := { dir with opened := fun _ ↦ false }

def append (dir : StagingDir) (type : ItemType) (text : List Char) : StagingDir :=
  { dir with files := Function.update dir.files type.fileName (some (dir.contents type ++ text)) }

section Writing

variable (floats : FloatFormat Float)

/-- The line of an item; none where `json.dumps` raises a `ValueError`. -/
def line (item : ItemDict Float) : Option (List Char) := write floats spaced (.dict item.entries)

/-- `write_raw_document`, `write_notice`, `write_notice_version`, `write_attachment` and `write_error`. The item that
cannot be written has opened its file. -/
def writeItem (dir : StagingDir) (type : ItemType) (item : ItemDict Float) : StagingDir :=
  let ready := if dir.opened type then dir else dir.openFiles type.ofWriter
  match line floats item with
  | some text => ready.append type (text ++ ['\n'])
  | none => ready

def processItem (dir : StagingDir) (item : ItemDict Float) : StagingDir :=
  match getItemType item with
  | some type => dir.writeItem floats type item
  | none => dir

end Writing

end StagingDir

/-! ## Runs -/

/-- What reaches the pipeline in any number of runs. -/
inductive PipelineEvent (Float : Type) where
  | openSpider
  | item (item : ItemDict Float)
  | closeSpider

namespace StagingDir

section Runs

variable (floats : FloatFormat Float)

def handle (dir : StagingDir) : PipelineEvent Float → StagingDir
  | .openSpider => dir.openAll
  | .item item => dir.processItem floats item
  | .closeSpider => dir.closeAll

def run (dir : StagingDir) (events : List (PipelineEvent Float)) : StagingDir := events.foldl (handle floats) dir

/-- The item of an event, where it is one of the type. -/
def sent (type : ItemType) : PipelineEvent Float → Option (ItemDict Float)
  | .item item => if getItemType item = some type then some item else none
  | _ => none

variable {floats} {dir : StagingDir} {type other : ItemType}

theorem fileName_injective : Function.Injective ItemType.fileName := by
  intro type other h
  cases type <;> cases other <;> first | rfl | exact absurd h (by decide)

/-- Only the file of the type is touched. -/
theorem contents_update (text : List Char) :
    ((Function.update dir.files other.fileName (some text)) type.fileName).getD [] =
      if type = other then text else dir.contents type := by
  split_ifs with h
  · rw [h, Function.update_self, Option.getD_some]
  · rw [Function.update_of_ne fun heq ↦ h (fileName_injective heq)]
    rfl

theorem contents_openFile : (dir.openFile other).contents type = dir.contents type := by
  refine contents_update (dir.contents other) |>.trans ?_
  split_ifs with h
  · rw [h]
  · rfl

theorem contents_openFiles (types : List ItemType) : (dir.openFiles types).contents type = dir.contents type := by
  induction types generalizing dir with
  | nil => rfl
  | cons other types ih => exact ih.trans contents_openFile

theorem contents_append (text : List Char) :
    (dir.append other text).contents type = if type = other then dir.contents type ++ text else dir.contents type := by
  refine contents_update (dir.contents other ++ text) |>.trans ?_
  split_ifs with h
  · rw [h]
  · rfl

theorem contents_writeItem (item : ItemDict Float) : (dir.writeItem floats other item).contents type =
    dir.contents type ++ if type = other then ((line floats item).map (· ++ ['\n'])).getD [] else [] := by
  have hready : (if dir.opened other then dir else dir.openFiles other.ofWriter).contents type = dir.contents type := by
    split_ifs
    · rfl
    · exact contents_openFiles _
  unfold writeItem
  dsimp only
  cases line floats item with
  | none => rw [hready, Option.map_none, Option.getD_none, ite_self, List.append_nil]
  | some text =>
    rw [contents_append, hready, Option.map_some, Option.getD_some]
    split_ifs
    · rfl
    · exact (List.append_nil _).symm

/-- The line that an event adds to a file. -/
theorem contents_handle (event : PipelineEvent Float) : (dir.handle floats event).contents type =
    dir.contents type ++ ((sent type event).bind (line floats)).elim [] (· ++ ['\n']) := by
  cases event with
  | openSpider => exact (contents_openFiles itemTypes).trans (List.append_nil _).symm
  | closeSpider => exact (List.append_nil _).symm
  | item item =>
    rw [handle, processItem, sent]
    cases htype : getItemType item with
    | none => simp
    | some other =>
      dsimp only
      rw [contents_writeItem]
      by_cases hsame : type = other
      · cases hline : line floats item with
        | none => simp [hsame, hline]
        | some text => simp [hsame, hline]
      · have hne : other ≠ type := Ne.symm hsame
        simp [hsame, hne]

/-- A file holds the lines of the items that were sent to it. -/
theorem contents_run (events : List (PipelineEvent Float)) : (dir.run floats events).contents type =
    dir.contents type ++ ((events.filterMap (sent type)).filterMap (line floats)).flatMap (· ++ ['\n']) := by
  induction events generalizing dir with
  | nil => exact (List.append_nil _).symm
  | cons event events ih =>
    have hrun : dir.run floats (event :: events) = (dir.handle floats event).run floats events := rfl
    rw [hrun, ih, contents_handle, List.append_assoc, List.filterMap_cons]
    congr 1
    cases sent type event with
    | none => rfl
    | some item =>
      rw [List.filterMap_cons, Option.bind_some]
      cases line floats item <;> rfl

/-- However many runs there were and whatever they were given, each file has a line for each item of its type that
could be written, in their order, and the line is read as the item. -/
theorem run_readBack (floats : FloatFormat Float) (events : List (PipelineEvent Float)) (type : ItemType) :
    (fileLines ((empty.run floats events).contents type)).map (loads floats) =
      ((events.filterMap (sent type)).filter fun item ↦ (line floats item).isSome).map fun item ↦
        some (.dict item.entries) := by
  rw [contents_run]
  exact loads_fileLines ItemDict.distinct (events.filterMap (sent type))

end Runs

end StagingDir

end TenderPhase1.Crawler
