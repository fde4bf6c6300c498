import PatchProof.Context.Excluded
import PatchProof.Investigation.Planner
import PatchProof.Library.Running
import PatchProof.Library.Terminated

/-!
# Reading the name-status diff

Git writes every change as a status field and one or two paths, each with a NUL behind it.
The retriever strips the NULs at the end, cuts at the others, and reads the records one after
another; it gets back exactly what was written.

A NUL at the end is not asked for.  When the output is cut off inside a record, the record is
refused as long as its last path has not begun; from then on what there is of the path is
read, and a beginning that is a valid path of its own is taken for the path.
-/

set_option autoImplicit false

namespace PatchProof

/-! ## Paths in UTF-8 -/

/-- The bytes of a text. -/
def utf8Bytes (text : String) : List UInt8 := text.toList.flatMap String.utf8EncodeChar

theorem fromUTF8?_utf8Bytes (text : String) :
    String.fromUTF8? ⟨(utf8Bytes text).toArray⟩ = some text := by
  have bytes : (⟨(utf8Bytes text).toArray⟩ : ByteArray) = text.toByteArray := by
    rw [← String.utf8Encode_toList]
    apply ByteArray.ext
    rw [List.utf8Encode, List.data_toByteArray]
    rfl
  rw [bytes, String.fromUTF8?, dif_pos text.isValidUTF8]
  rfl

/-- Only the NUL character is written with a NUL byte. -/
theorem zero_not_mem_utf8EncodeChar {c : Char} (other : c ≠ '\x00') :
    (0 : UInt8) ∉ String.utf8EncodeChar c := by
  have positive : c.val.toNat ≠ 0 := by
    intro zero
    apply other
    apply Char.ext
    exact UInt32.toNat_inj.mp zero
  have nonzero : ∀ value : Nat, value % 256 ≠ 0 → UInt8.ofNat value ≠ 0 := by
    intro value some same
    have values := congrArg UInt8.toNat same
    rw [UInt8.toNat_ofNat'] at values
    exact some values
  have byte : ∀ value : Nat, value % 256 ≠ 0 → ¬ (0 : UInt8) = UInt8.ofNat value :=
    fun value some same => nonzero value some same.symm
  unfold String.utf8EncodeChar
  dsimp only
  split
  · rw [List.mem_singleton]
    exact byte _ (by omega)
  · split
    · rw [List.mem_cons, List.mem_singleton, not_or]
      exact ⟨byte _ (by omega), byte _ (by omega)⟩
    · split
      · rw [List.mem_cons, List.mem_cons, List.mem_singleton, not_or, not_or]
        exact ⟨byte _ (by omega), byte _ (by omega), byte _ (by omega)⟩
      · rw [List.mem_cons, List.mem_cons, List.mem_cons, List.mem_singleton, not_or, not_or,
          not_or]
        exact ⟨byte _ (by omega), byte _ (by omega), byte _ (by omega), byte _ (by omega)⟩

/-- Bytes that are no path are refused in one way. -/
theorem decodePath_error {bytes : List UInt8} {problem : RetrievalError}
    (refused : decodePath bytes = .error problem) :
    ∃ message, problem = .contextRetrieval message := by
  unfold decodePath at refused
  split at refused
  · cases refused
    exact ⟨_, rfl⟩
  · rename_i text _
    cases checked : validateRepositoryPath text with
    | error message =>
        rw [checked] at refused
        cases refused
        exact ⟨message, rfl⟩
    | ok path =>
        rw [checked] at refused
        cases refused

namespace RepositoryPath

variable (path : RepositoryPath)

theorem decodePath_utf8Bytes : decodePath (utf8Bytes path.text) = .ok path := by
  unfold decodePath
  rw [fromUTF8?_utf8Bytes]
  dsimp only
  rw [validateRepositoryPath, dif_pos path.wellFormed]
  rfl

theorem utf8Bytes_field : Terminated.Field 0 (utf8Bytes path.text) := by
  obtain ⟨plain, segments⟩ := Bool.and_eq_true_iff.mp path.wellFormed
  constructor
  · intro empty
    have none : path.text.toList = [] := by
      cases letters : path.text.toList with
      | nil => rfl
      | cons c rest =>
          rw [utf8Bytes, letters, List.flatMap_cons] at empty
          have some : (String.utf8EncodeChar c).length = 0 := by
            rw [(List.append_eq_nil_iff.mp empty).1]
            rfl
          rw [String.length_utf8EncodeChar] at some
          exact absurd some (Nat.ne_of_gt c.utf8Size_pos)
    rw [none] at segments
    revert segments
    decide
  · intro zero
    obtain ⟨c, mem, inside⟩ := List.mem_flatMap.mp zero
    have accepted := List.all_eq_true.mp plain c mem
    refine zero_not_mem_utf8EncodeChar ?_ inside
    rintro rfl
    revert accepted
    decide

end RepositoryPath

/-! ## Records -/

/-- The letter of a status. -/
def ChangeStatus.letter : ChangeStatus → UInt8
  | .added => 65
  | .modified => 77
  | .deleted => 68
  | .renamed => 82
  | .copied => 67
  | .typeChanged => 84
  | .unmerged => 85
  | .unknown => 88

/-- A change as Git writes it: a status with a score behind its letter, and the paths. -/
structure NameStatusRecord where
  status : ChangeStatus
  score : List UInt8
  path : RepositoryPath
  previousPath : Option RepositoryPath
  renameSource : status.hasPrevious = previousPath.isSome
  scorePlain : ∀ byte ∈ score, byte ≠ 0 ∧ byte.toNat < 128

namespace NameStatusRecord

variable (record : NameStatusRecord)

/-- The changed file of the record. -/
def file : ChangedFile :=
  .ofRecord record.status record.path record.previousPath record.renameSource

def statusField : List UInt8 := record.status.letter :: record.score

/-- The fields in front of the path. -/
def leading : List (List UInt8) :=
  record.statusField :: (record.previousPath.map fun path => utf8Bytes path.text).toList

def fields : List (List UInt8) := record.leading ++ [utf8Bytes record.path.text]

/-- The record in the output of Git. -/
def encode : List UInt8 := Terminated.join 0 record.fields

/-- Records in the output of Git. -/
def encodeAll (records : List NameStatusRecord) : List UInt8 := records.flatMap encode

theorem statusField_plain : ∀ byte ∈ record.statusField, byte ≠ 0 ∧ byte.toNat < 128 := by
  intro byte mem
  rcases List.mem_cons.mp mem with rfl | inScore
  · cases record.status <;> decide
  · exact record.scorePlain byte inScore

/-- The status of the field is the status of the record. -/
theorem normalizeStatus_statusField :
    ∃ text, decodeAscii record.statusField = .ok text ∧ normalizeStatus text = record.status := by
  have ascii : (record.statusField.all fun byte => byte.toNat < 128) = true := by
    rw [List.all_eq_true]
    exact fun byte mem => decide_eq_true (record.statusField_plain byte mem).2
  refine ⟨String.ofList (record.statusField.map fun byte => Char.ofNat byte.toNat), ?_, ?_⟩
  · rw [decodeAscii, if_pos ascii]
  · rw [normalizeStatus, String.toList_ofList, statusField, List.map_cons, List.head?_cons]
    cases record.status <;> rfl

theorem fields_field : ∀ field ∈ record.fields, Terminated.Field 0 field := by
  intro field mem
  rcases List.mem_append.mp mem with inFront | isPath
  · rcases List.mem_cons.mp inFront with rfl | isPrevious
    · exact ⟨List.cons_ne_nil _ _, fun zero => (record.statusField_plain 0 zero).1 rfl⟩
    · obtain ⟨path, _, rfl⟩ := Option.map_eq_some_iff.mp (Option.mem_toList.mp isPrevious)
      exact path.utf8Bytes_field
  · exact List.mem_singleton.mp isPath ▸ record.path.utf8Bytes_field

/-- The fields of some records. -/
theorem encodeAll_eq_join (records : List NameStatusRecord) :
    encodeAll records = Terminated.join 0 (records.flatMap fields) := by
  rw [encodeAll, Terminated.join, List.flatMap_assoc]
  rfl

/-! ## Reading records back -/

/-- A path of some bytes, with what else is read. -/
def readLast (bytes : List UInt8) : Except RetrievalError ChangedFile :=
  (decodePath bytes).map fun path =>
    .ofRecord record.status path record.previousPath record.renameSource

/-- The fields of a record with other bytes in the place of its path are read as the record with
the path of these bytes. -/
theorem readRecords_last (bytes : List UInt8) (rest : List (List UInt8)) :
    readRecords (record.leading ++ bytes :: rest) =
      record.readLast bytes >>= fun file => (readRecords rest).map (file :: ·) := by
  obtain ⟨text, decoded, same⟩ := record.normalizeStatus_statusField
  obtain ⟨status, score, path, previousPath, renameSource, scorePlain⟩ := record
  cases previousPath with
  | none =>
      obtain rfl : normalizeStatus text = status := same
      have single : ¬ (normalizeStatus text).hasPrevious = true := by
        rw [renameSource]
        exact Bool.false_ne_true
      rw [leading, Option.map_none, Option.toList_none, List.singleton_append, readRecords, decoded,
        Guard.ok_bind]
      dsimp only
      rw [dif_neg single, readLast]
      dsimp only
      cases decodePath bytes with
      | error problem => rfl
      | ok last => cases readRecords rest <;> rfl
  | some previous =>
      obtain rfl : normalizeStatus text = status := same
      have double : (normalizeStatus text).hasPrevious = true := renameSource
      rw [leading, Option.map_some, Option.toList_some, List.cons_append, List.singleton_append,
        readRecords, decoded, Guard.ok_bind]
      dsimp only
      rw [dif_pos double, readLast, previous.decodePath_utf8Bytes, Guard.ok_bind]
      dsimp only
      cases decodePath bytes with
      | error problem => rfl
      | ok last => cases readRecords rest <;> rfl

theorem readLast_path : record.readLast (utf8Bytes record.path.text) = .ok record.file := by
  rw [readLast, record.path.decodePath_utf8Bytes]
  rfl

/-- Records in front are read as their changed files. -/
theorem readRecords_append (records : List NameStatusRecord) (rest : List (List UInt8)) :
    readRecords (records.flatMap fields ++ rest) =
      (readRecords rest).map (records.map file ++ ·) := by
  induction records with
  | nil =>
      rw [List.flatMap_nil, List.nil_append]
      cases readRecords rest <;> rfl
  | cons record others ih =>
      rw [List.flatMap_cons, fields, List.append_assoc, List.append_assoc, List.singleton_append,
        record.readRecords_last, record.readLast_path, Guard.ok_bind, ih]
      cases readRecords rest <;> rfl

end NameStatusRecord

/-! ## The loop -/

/-- One pass of the loop: the record at an index, and the index behind it. -/
def recordAt (tokens : List (List UInt8)) (index : Nat) :
    Except RetrievalError (ChangedFile × Nat) := do
  let status := normalizeStatus (← decodeAscii (tokens.getD index []))
  if hasPrevious : status.hasPrevious = true then
    match tokens[index + 1]?, tokens[index + 2]? with
    | some first, some second =>
        let previousPath ← decodePath first
        let path ← decodePath second
        .ok (.ofRecord status path (some previousPath) hasPrevious, index + 3)
    | _, _ => .error (.contextRetrieval "Git returned an incomplete rename/copy record")
  else
    match tokens[index + 1]? with
    | some first =>
        let path ← decodePath first
        .ok (.ofRecord status path none (status.unrenamed hasPrevious), index + 2)
    | none => .error (.contextRetrieval "Git returned an incomplete name-status record")

/-- The loop, with a bound on its passes; nothing when they do not suffice. -/
def recordLoop (tokens : List (List UInt8)) :
    Nat → Nat → List ChangedFile → Option (Except RetrievalError (List ChangedFile))
  | passes, index, files =>
      if index < tokens.length then
        match passes with
        | 0 => none
        | left + 1 =>
            match recordAt tokens index with
            | .error problem => some (.error problem)
            | .ok (file, next) => recordLoop tokens left next (files ++ [file])
      else some (.ok files)

/-- A pass reads the first of the records that are left. -/
theorem readRecords_drop {tokens more : List (List UInt8)} {token : List UInt8} {index : Nat}
    (left : tokens.drop index = token :: more) :
    readRecords (tokens.drop index) = recordAt tokens index >>= fun read =>
      (readRecords (tokens.drop read.2)).map (read.1 :: ·) := by
  have here : tokens.getD index [] = token := by
    rw [List.getD_eq_getElem?_getD, ← List.head?_drop, left]
    rfl
  have behind : ∀ count, tokens[index + 1 + count]? = more[count]? := by
    intro count
    have tail : tokens.drop (index + 1) = more := by
      rw [← List.drop_drop, left]
      rfl
    rw [← tail, List.getElem?_drop]
  have rest : ∀ count, tokens.drop (index + 1 + count) = more.drop count := by
    intro count
    rw [Nat.add_assoc, ← List.drop_drop, left, Nat.add_comm, List.drop_succ_cons]
  have first : tokens[index + 1]? = more[0]? := behind 0
  have second : tokens[index + 2]? = more[1]? := behind 1
  have restTwo : tokens.drop (index + 2) = more.drop 1 := rest 1
  have restThree : tokens.drop (index + 3) = more.drop 2 := rest 2
  rw [left, recordAt, here, first, second]
  cases more with
  | nil =>
      rw [readRecords]
      cases decodeAscii token with
      | error problem => rfl
      | ok text =>
          rw [Guard.ok_bind, Guard.ok_bind]
          dsimp only
          split <;> rfl
  | cons path others =>
      rw [readRecords]
      cases decodeAscii token with
      | error problem => rfl
      | ok text =>
          rw [Guard.ok_bind, Guard.ok_bind]
          dsimp only
          split
          · cases others with
            | nil => rfl
            | cons last behindLast =>
                dsimp only [List.getElem?_cons_zero, List.getElem?_cons_succ]
                cases decodePath path with
                | error problem => rfl
                | ok previousPath =>
                    cases decodePath last with
                    | error problem => rfl
                    | ok path =>
                        rw [Guard.ok_bind, Guard.ok_bind, Guard.ok_bind, Guard.ok_bind,
                          Guard.ok_bind, restThree, List.drop_succ_cons, List.drop_succ_cons,
                          List.drop_zero]
                        cases readRecords behindLast <;> rfl
          · dsimp only [List.getElem?_cons_zero]
            cases decodePath path with
            | error problem => rfl
            | ok path =>
                rw [Guard.ok_bind, Guard.ok_bind, Guard.ok_bind, restTwo, List.drop_succ_cons,
                  List.drop_zero]
                cases readRecords others <;> rfl

/-- A pass goes on behind the record. -/
theorem lt_of_recordAt {tokens : List (List UInt8)} {index next : Nat} {file : ChangedFile}
    (read : recordAt tokens index = .ok (file, next)) : index < next := by
  unfold recordAt at read
  obtain ⟨text, _, read⟩ := Guard.bind_eq_ok_iff.mp read
  dsimp only at read
  split at read
  · split at read
    · obtain ⟨previousPath, _, read⟩ := Guard.bind_eq_ok_iff.mp read
      obtain ⟨path, _, read⟩ := Guard.bind_eq_ok_iff.mp read
      injection read with same
      injection same with _ same
      omega
    · cases read
  · split at read
    · obtain ⟨path, _, read⟩ := Guard.bind_eq_ok_iff.mp read
      injection read with same
      injection same with _ same
      omega
    · cases read

theorem map_readRecords_nil (files : List ChangedFile) :
    (readRecords []).map (files ++ ·) = .ok files := by
  rw [readRecords]
  exact congrArg Except.ok (List.append_nil files)

/-- The loop reads the records that are left, and one pass for each token suffices. -/
theorem recordLoop_eq (tokens : List (List UInt8)) (passes index : Nat)
    (enough : tokens.length ≤ index + passes) (files : List ChangedFile) :
    recordLoop tokens passes index files =
      some ((readRecords (tokens.drop index)).map (files ++ ·)) := by
  induction passes generalizing index files with
  | zero =>
      have none : tokens.drop index = [] := List.drop_eq_nil_of_le enough
      rw [recordLoop, if_neg (by omega), none, map_readRecords_nil]
  | succ left ih =>
      rw [recordLoop]
      by_cases inside : index < tokens.length
      · rw [if_pos inside, readRecords_drop (List.drop_eq_getElem_cons inside)]
        cases read : recordAt tokens index with
        | error problem => rfl
        | ok record =>
            have further := lt_of_recordAt read
            dsimp only
            rw [ih record.2 (by omega), Guard.ok_bind]
            cases readRecords (tokens.drop record.2) with
            | error problem => rfl
            | ok others =>
                have same : files ++ [record.1] ++ others = files ++ record.1 :: others :=
                  List.append_assoc _ _ _
                exact congrArg (fun all => some (Except.ok all)) same
      · have none : tokens.drop index = [] := List.drop_eq_nil_of_le (Nat.le_of_not_lt inside)
        rw [if_neg inside, none, map_readRecords_nil]

/-- **The loop ends.**  Whatever the tokens, one pass for each of them suffices. -/
theorem recordLoop_ends (tokens : List (List UInt8)) :
    recordLoop tokens tokens.length 0 [] = some (readRecords tokens) := by
  rw [recordLoop_eq tokens tokens.length 0 (Nat.le_add_left _ _), List.drop_zero]
  cases readRecords tokens <;> rfl

/-! ## Outputs that are cut off -/

/-- An output that is cut off inside its last record, behind the status of this. -/
structure CutOutput where
  complete : List NameStatusRecord
  last : NameStatusRecord
  count : Nat
  afterStatus : last.statusField.length ≤ count
  inside : count < last.encode.length

namespace CutOutput

variable (cut : CutOutput)

def output : List UInt8 := NameStatusRecord.encodeAll cut.complete ++ cut.last.encode.take cut.count

/-- How much of the last record stands in front of its last path. -/
def pathStart : Nat := (Terminated.join 0 cut.last.leading).length

/-- What there is of the last path. -/
def pathBytes : List UInt8 :=
  (utf8Bytes cut.last.path.text).take (cut.count - cut.pathStart)

theorem nulTokens_output : nulTokens cut.output =
    cut.complete.flatMap NameStatusRecord.fields ++
      Terminated.begun cut.last.fields cut.count := by
  have ahead : ∀ field ∈ cut.complete.flatMap NameStatusRecord.fields,
      Terminated.Field 0 field := by
    intro field mem
    obtain ⟨record, _, inside⟩ := List.mem_flatMap.mp mem
    exact record.fields_field field inside
  rw [output, NameStatusRecord.encodeAll_eq_join]
  exact Terminated.tokens_take ahead cut.last.fields_field cut.count

/-- The last path has begun when more is there than what stands in front of it. -/
theorem begun_of_lt (begins : cut.pathStart < cut.count) :
    Terminated.begun cut.last.fields cut.count = cut.last.leading ++ [cut.pathBytes] := by
  have most : cut.count - cut.pathStart ≤ (utf8Bytes cut.last.path.text).length + 1 := by
    have inside := cut.inside
    rw [NameStatusRecord.encode, NameStatusRecord.fields, Terminated.join_snoc, List.length_append,
      List.length_append, List.length_singleton] at inside
    change cut.count < cut.pathStart + _ + 1 at inside
    omega
  rw [NameStatusRecord.fields, Terminated.begun_append_of_lt _ begins]
  change _ ++ Terminated.begun _ (cut.count - cut.pathStart) = _
  rw [Terminated.begun, if_neg (by omega), if_pos most, pathBytes]

/-- A status field alone is an incomplete record. -/
theorem readRecords_statusField (record : NameStatusRecord) :
    ∃ message, readRecords [record.statusField] = .error (.contextRetrieval message) := by
  obtain ⟨text, decoded, _⟩ := record.normalizeStatus_statusField
  rw [readRecords, decoded, Guard.ok_bind]
  dsimp only
  split <;> exact ⟨_, rfl⟩

/-- So are a status field and a path in a record that has two. -/
theorem readRecords_previous (record : NameStatusRecord) (double : record.status.hasPrevious = true)
    (bytes : List UInt8) :
    ∃ message, readRecords [record.statusField, bytes] = .error (.contextRetrieval message) := by
  obtain ⟨text, decoded, same⟩ := record.normalizeStatus_statusField
  rw [← same] at double
  rw [readRecords, decoded, Guard.ok_bind]
  dsimp only
  rw [dif_pos double]
  exact ⟨_, rfl⟩

/-- A record of which no last path has begun is incomplete. -/
theorem refused_of_le (early : cut.count ≤ cut.pathStart) :
    ∃ message, readRecords (Terminated.begun cut.last.fields cut.count) =
      .error (.contextRetrieval message) := by
  have status := cut.afterStatus
  have positive : cut.count ≠ 0 := by
    rw [NameStatusRecord.statusField, List.length_cons] at status
    omega
  rw [NameStatusRecord.fields, Terminated.begun_append_of_le _ early, NameStatusRecord.leading,
    Terminated.begun, if_neg positive]
  split
  · rw [List.take_of_length_le status]
    exact readRecords_statusField cut.last
  · cases previous : cut.last.previousPath with
    | none => exact readRecords_statusField cut.last
    | some path =>
        have double : cut.last.status.hasPrevious = true := by
          rw [cut.last.renameSource, previous]
          rfl
        rw [Option.map_some, Option.toList_some, Terminated.begun, if_neg (by omega)]
        split
        · exact readRecords_previous cut.last double _
        · exact readRecords_previous cut.last double _

end CutOutput

/-! ## The changed files -/

namespace DeterministicContextRetriever

variable (retriever : DeterministicContextRetriever) (base head : GitSha)

/-- What `_changed_files` returns when Git has written an output. -/
def changedFilesOf (output : List UInt8) : Except RetrievalError (List ChangedFile) :=
  (retriever.changedFiles base head).under fun _ => some ⟨0, output, []⟩

theorem changedFilesOf_eq (output : List UInt8) :
    retriever.changedFilesOf base head output = readRecords (nulTokens output) := rfl

/-- How an output that is cut off is read: it is refused before its last path has begun, and read
with what there is of this path from then on. -/
structure ReadsCut (cut : CutOutput) : Prop where
  early : cut.count ≤ cut.pathStart → ∃ message,
    retriever.changedFilesOf base head cut.output = .error (.contextRetrieval message)
  late : cut.pathStart < cut.count → retriever.changedFilesOf base head cut.output =
    (cut.last.readLast cut.pathBytes).map fun file =>
      cut.complete.map NameStatusRecord.file ++ [file]
  problems : ∀ problem, retriever.changedFilesOf base head cut.output = .error problem →
    ∃ message, problem = .contextRetrieval message

theorem changedFilesOf_early {cut : CutOutput} (early : cut.count ≤ cut.pathStart) :
    ∃ message, retriever.changedFilesOf base head cut.output =
      .error (.contextRetrieval message) := by
  obtain ⟨message, refused⟩ := cut.refused_of_le early
  refine ⟨message, ?_⟩
  rw [changedFilesOf_eq, cut.nulTokens_output, NameStatusRecord.readRecords_append, refused]
  rfl

theorem changedFilesOf_late {cut : CutOutput} (begins : cut.pathStart < cut.count) :
    retriever.changedFilesOf base head cut.output = (cut.last.readLast cut.pathBytes).map fun file =>
      cut.complete.map NameStatusRecord.file ++ [file] := by
  rw [changedFilesOf_eq, cut.nulTokens_output, NameStatusRecord.readRecords_append,
    cut.begun_of_lt begins, NameStatusRecord.readRecords_last]
  cases cut.last.readLast cut.pathBytes with
  | error problem => rfl
  | ok file => rfl

theorem readsCut (cut : CutOutput) : retriever.ReadsCut base head cut := by
  refine ⟨retriever.changedFilesOf_early base head, retriever.changedFilesOf_late base head, ?_⟩
  intro problem refused
  rcases Nat.lt_or_ge cut.pathStart cut.count with begins | early
  · rw [changedFilesOf_late retriever base head begins, NameStatusRecord.readLast] at refused
    cases decoded : decodePath cut.pathBytes with
    | error other =>
        rw [decoded] at refused
        cases refused
        exact decodePath_error decoded
    | ok path =>
        rw [decoded] at refused
        cases refused
  · obtain ⟨message, early⟩ := retriever.changedFilesOf_early base head early
    rw [early] at refused
    cases refused
    exact ⟨message, rfl⟩

theorem reads_encodeAll (records : List NameStatusRecord) :
    retriever.changedFilesOf base head (NameStatusRecord.encodeAll records) =
      .ok (records.map NameStatusRecord.file) := by
  have allFields : ∀ field ∈ records.flatMap NameStatusRecord.fields,
      Terminated.Field 0 field := by
    intro field mem
    obtain ⟨record, _, inside⟩ := List.mem_flatMap.mp mem
    exact record.fields_field field inside
  have tokens : nulTokens (NameStatusRecord.encodeAll records) =
      records.flatMap NameStatusRecord.fields := by
    rw [NameStatusRecord.encodeAll_eq_join]
    exact Terminated.tokens_join allFields
  have all := NameStatusRecord.readRecords_append records []
  rw [List.append_nil] at all
  rw [changedFilesOf_eq, tokens, all, readRecords]
  exact congrArg Except.ok (List.append_nil _)

/-- **What Git writes of the changes is read back.**  An output that is cut off is refused until
its last path has begun, and the loop ends on every output. -/
theorem name_status_read :
    (∀ records, retriever.changedFilesOf base head (NameStatusRecord.encodeAll records) =
      .ok (records.map NameStatusRecord.file)) ∧
    (∀ cut, retriever.ReadsCut base head cut) ∧
    ∀ output, recordLoop (nulTokens output) (nulTokens output).length 0 [] =
      some (retriever.changedFilesOf base head output) :=
  ⟨retriever.reads_encodeAll base head, retriever.readsCut base head,
    fun output => recordLoop_ends (nulTokens output)⟩

/-! ## A path that is cut short -/

/-- The record of `src.py`, of which two letters are written. -/
def cutSource : CutOutput where
  complete := []
  last :=
    { status := .modified
      score := []
      path := ⟨"src.py", by decide⟩
      previousPath := none
      renameSource := ChangeStatus.modified_unrenamed
      scorePlain := fun _ mem => absurd mem List.not_mem_nil }
  count := 4
  afterStatus := by decide
  inside := by decide

/-- The path that these letters are taken for. -/
def shortPath : RepositoryPath := ⟨"sr", by decide⟩

/-- The output that is cut off is read as a modification of another path. -/
theorem cut_path_accepted :
    excludingRetriever.changedFilesOf sampleBase sampleHead cutSource.output =
      .ok [.ofRecord .modified shortPath none rfl] := by
  have bytes : cutSource.pathBytes = utf8Bytes shortPath.text := by decide
  have read := (excludingRetriever.readsCut sampleBase sampleHead cutSource).late (by decide)
  rw [read, NameStatusRecord.readLast, bytes, shortPath.decodePath_utf8Bytes]
  rfl

end DeterministicContextRetriever

end PatchProof
