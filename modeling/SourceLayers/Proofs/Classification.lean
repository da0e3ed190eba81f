/-
Classification comes to its end:

* `Span.ofBounds_self` and its like: the checked constructors accept every value there is;
* `Document.standard_candidates`: all candidates of a document have the priorities of their layers;
* `classify_of_walk`, `walk_of_classify`: a text that is not blank is classified by the walk over
  its document, and its regions are what the candidates resolve to; `exists_classify_of_walk` is the
  first of them for any text;
* `exists_document`, `exists_walk_root`, `exists_run`: for a tree on the boundaries of its text
  there are a document, a walk and a classification.

Main statement: `classify_total`, that no fault crosses classification as long as calls may nest
without a limit, whatever else the tree is like.
-/
import Mathlib.Tactic
import SourceLayers.Classification
import SourceLayers.Proofs.Partition
import SourceLayers.Proofs.Placement
import SourceLayers.Proofs.Trivia
import SourceLayers.Proofs.Walk

namespace SourceLayers

/-! ### The checked constructors -/

lemma Span.ofBounds_self (span : Span) : Span.ofBounds span.start span.stop = .ok span := by
  have hlt := span.start_lt_stop
  rw [Span.ofBounds, dif_neg (by omega), dif_neg (by omega)]
  rfl

lemma Layer.ofName_name (layer : Layer) : Layer.ofName layer.name = .ok layer := by
  rw [Layer.ofName, Layer.ofName?_name]

lemma Candidate.ofBounds_self (c : Candidate) :
    Candidate.ofBounds c.start c.stop c.layer.name c.priority = .ok c := by
  rw [Candidate.ofBounds, Span.ofBounds_self, Layer.ofName_name]
  rfl

lemma Region.ofBounds_self (region : Region) :
    Region.ofBounds region.start region.stop region.layer.name = .ok region := by
  rw [Region.ofBounds, Span.ofBounds_self, Layer.ofName_name]
  rfl

lemma Comment.ofBounds_self (comment : Comment) :
    Comment.ofBounds comment.start comment.stop comment.isLine = .ok comment := by
  have hlt := comment.start_lt_stop
  rw [Comment.ofBounds, dif_neg (by omega)]

namespace SourceText

lemma ofTables_self (source : SourceText) :
    ofTables source.chars source.octets source.octetToChar source.charToOctet = .ok source := by
  rw [ofTables, dif_pos source.octetToChar_length, dif_pos source.charToOctet_length]

@[simp] lemma chars_ofText (text : List Char) : (ofText text).chars = text := by
  unfold ofText
  simp only
  split <;> rfl

@[simp] lemma octets_ofText (text : List Char) : (ofText text).octets = encodeUtf8 text := by
  unfold ofText
  simp only
  split <;> rfl

end SourceText

/-! ### Documents and their walks -/

namespace Document

variable {vocabulary : Vocabulary} {document : Document}

/-- The document of a tree is that of the placed tree. -/
lemma ofTree_eq_ok_iff {text : List Char} {tree : Node} :
    ofTree (SourceText.ofText text) tree = .ok document ↔
      ∃ root, place (SourceText.ofText text) tree = .ok root ∧ ofPlaced text root = document := by
  rw [ofTree, SourceText.chars_ofText]
  exact except_map_eq_ok

/-- A tree on the boundaries of a text has a document, whose tree lies within the text. -/
lemma exists_document {text : List Char} {tree : Node} (h : OnBoundaries text tree) :
    ∃ document, ofTree (SourceText.ofText text) tree = .ok document ∧
      document.text = text ∧ LiesWithin text document.root := by
  obtain ⟨root, hplace, hwithin⟩ := exists_place h
  exact ⟨ofPlaced text root, ofTree_eq_ok_iff.mpr ⟨root, hplace, rfl⟩, rfl, hwithin⟩

/-- The walk over a document comes to its end if the tree lies within the text. -/
lemma exists_walk_root (vocabulary : Vocabulary) (enums : NameSet)
    (h : LiesWithin document.text document.root) :
    ∃ trace, document.walk vocabulary enums = .ok trace := by
  refine Reading.exists_walk enums _ fun site hsite => ?_
  rw [List.mem_singleton.mp hsite]
  exact fun below hbelow => (h below hbelow).2

/-- All candidates of a document have the priorities of their layers. -/
lemma standard_candidates {enums : NameSet} {trace : Trace}
    (h : document.walk vocabulary enums = .ok trace) :
    Standard (trace.emitted ++ document.commentCandidates) :=
  standard_append.mpr
    ⟨(Reading.walk_eq_ok_iff.mp h).standard_emitted, standard_commentCandidates document⟩

end Document

variable {vocabulary : Vocabulary} {parse : List Char → Node} {text : List Char}

/-- The regions of a text that is not blank are what the candidates of its document resolve to. -/
lemma classify_of_walk {document : Document} {trace : Trace} (hblank : isBlankText text = false)
    (hdocument : Document.ofTree (SourceText.ofText text) (parse text) = .ok document)
    (hwalk : document.walk vocabulary NameSet.empty = .ok trace) :
    ∃ result, classify vocabulary parse text = .ok result ∧
      result.regions = resolve (trace.emitted ++ document.commentCandidates) text.length := by
  obtain ⟨root, -, hroot⟩ := Document.ofTree_eq_ok_iff.mp hdocument
  have htext : document.text = text := by rw [← hroot]; rfl
  rw [classify, hblank, hdocument]
  show ∃ result, document.classify vocabulary = .ok result ∧ _
  rw [Document.classify, hwalk, ← htext]
  exact ⟨_, rfl, rfl⟩

/-- A text that is not blank is classified only by a walk over its document. -/
lemma walk_of_classify {result : Classification} (hblank : isBlankText text = false)
    (h : classify vocabulary parse text = .ok result) :
    ∃ document trace, Document.ofTree (SourceText.ofText text) (parse text) = .ok document ∧
      document.walk vocabulary NameSet.empty = .ok trace ∧
      result.regions = resolve (trace.emitted ++ document.commentCandidates) text.length := by
  have hsteps := h
  rw [classify, hblank] at hsteps
  obtain ⟨document, hdocument, hsteps⟩ := except_bind_eq_ok.mp hsteps
  obtain ⟨trace, hwalk, -⟩ := except_bind_eq_ok.mp hsteps
  obtain ⟨same, hsame, hregions⟩ := classify_of_walk hblank hdocument hwalk
  rw [h] at hsame
  cases hsame
  exact ⟨document, trace, hdocument, hwalk, hregions⟩

/-- A blank text has no regions. -/
lemma classify_of_blank (hblank : isBlankText text = true) :
    classify vocabulary parse text = .ok { textLength := text.length } := by
  rw [classify, if_pos hblank]

/-- Where there is a walk over its document a text is classified, and if it is not blank its regions
are what the candidates resolve to. -/
lemma exists_classify_of_walk {document : Document} {trace : Trace}
    (hdocument : Document.ofTree (SourceText.ofText text) (parse text) = .ok document)
    (hwalk : document.walk vocabulary NameSet.empty = .ok trace) :
    ∃ result, classify vocabulary parse text = .ok result ∧
      (isBlankText text = false →
        result.regions = resolve (trace.emitted ++ document.commentCandidates) text.length) := by
  cases hblank : isBlankText text with
  | true => exact ⟨_, classify_of_blank hblank, by simp⟩
  | false =>
      obtain ⟨result, hresult, hregions⟩ := classify_of_walk hblank hdocument hwalk
      exact ⟨result, hresult, fun _ => hregions⟩

/-- For a tree that lies within its text there is a classification. -/
lemma exists_classify (vocabulary : Vocabulary) {document : Document}
    (hdocument : Document.ofTree (SourceText.ofText text) (parse text) = .ok document)
    (hwithin : LiesWithin text document.root) :
    ∃ result, classify vocabulary parse text = .ok result := by
  obtain ⟨root, -, hroot⟩ := Document.ofTree_eq_ok_iff.mp hdocument
  have htext : document.text = text := by rw [← hroot]; rfl
  rw [← htext] at hwithin
  cases hblank : isBlankText text with
  | true => exact ⟨_, classify_of_blank hblank⟩
  | false =>
      obtain ⟨trace, hwalk⟩ := Document.exists_walk_root vocabulary NameSet.empty hwithin
      obtain ⟨result, hresult, -⟩ := classify_of_walk hblank hdocument hwalk
      exact ⟨result, hresult⟩

/-- For a tree on the boundaries of its text there are a document, a walk and a classification. -/
lemma exists_run (vocabulary : Vocabulary) (enums : NameSet) (parse : List Char → Node)
    (h : OnBoundaries text (parse text)) :
    ∃ document trace result,
      Document.ofTree (SourceText.ofText text) (parse text) = .ok document ∧
        document.walk vocabulary enums = .ok trace ∧
        classify vocabulary parse text = .ok result := by
  obtain ⟨document, hdocument, htext, hwithin⟩ := Document.exists_document h
  obtain ⟨result, hresult⟩ := exists_classify vocabulary hdocument hwithin
  rw [← htext] at hwithin
  obtain ⟨trace, hwalk⟩ := Document.exists_walk_root vocabulary enums hwithin
  exact ⟨document, trace, result, hdocument, hwalk, hresult⟩

/-- For a tree on the boundaries of its text there are a document and the walk that classification
takes. -/
lemma exists_walk_of_onBoundaries (vocabulary : Vocabulary) (parse : List Char → Node)
    (h : OnBoundaries text (parse text)) :
    ∃ document trace, Document.ofTree (SourceText.ofText text) (parse text) = .ok document ∧
      document.walk vocabulary NameSet.empty = .ok trace := by
  obtain ⟨document, trace, -, hdocument, hwalk, -⟩ := exists_run vocabulary NameSet.empty parse h
  exact ⟨document, trace, hdocument, hwalk⟩

/-- Whatever is classified, its regions lie within the text. -/
lemma stop_le_length_of_classify {result : Classification}
    (h : classify vocabulary parse text = .ok result) :
    ∀ region ∈ result.regions, region.stop ≤ text.length := by
  cases hblank : isBlankText text with
  | true =>
      rw [classify_of_blank hblank] at h
      cases h
      simp
  | false =>
      obtain ⟨document, trace, -, -, hregions⟩ := walk_of_classify hblank h
      rw [hregions]
      intro region hregion
      exact_mod_cast ((isPartition_resolve _ _).within region hregion).2

/-- A region counts for its own layer only. -/
lemma coverage_cons (first : Region) (rest : List Region) (layer : Layer) :
    coverage (first :: rest) layer =
      (if first.layer = layer then first.length else 0) + coverage rest layer := by
  by_cases hlayer : first.layer = layer
  · rw [coverage, List.filter_cons_of_pos (by simpa using hlayer), total_cons, if_pos hlayer]
    rfl
  · rw [coverage, List.filter_cons_of_neg (by simpa using hlayer), if_neg hlayer, Nat.zero_add]
    rfl

/-- The counts of the layers add up to the lengths of the regions: every region is counted, and
counted once. -/
lemma total_coverage (regions : List Region) :
    total (coverage regions) Layer.all = total (fun region => region.length) regions := by
  induction regions with
  | nil => rfl
  | cons first rest ih =>
      simp only [Layer.all, total_cons, total_nil] at ih ⊢
      simp only [coverage_cons]
      cases first.layer <;> simp <;> omega

/-- **No fault crosses classification** where calls may nest as deep as they need: for a tree on the
boundaries of its text, whatever its kinds, fields and spans, there is a classification. Its regions
lie within the text, and the counts by layer miss none of them; on the way there, every value passes
the check of its constructor, and all candidates of the walk and of the comments have the priorities
of their layers. -/
theorem classify_total (vocabulary : Vocabulary) (parse : List Char → Node) (text : List Char)
    (h : OnBoundaries text (parse text)) :
    ∃ result, classify vocabulary parse text = .ok result ∧
      (∀ region ∈ result.regions, region.start < region.stop ∧ region.stop ≤ text.length ∧
        Region.ofBounds region.start region.stop region.layer.name = .ok region) ∧
      total result.coverage Layer.all = total (fun region => region.length) result.regions ∧
      SourceText.ofTables text (encodeUtf8 text) (SourceText.ofText text).octetToChar
        (SourceText.ofText text).charToOctet = .ok (SourceText.ofText text) ∧
      ∃ document, Document.ofTree (SourceText.ofText text) (parse text) = .ok document ∧
        (∀ comment ∈ document.comments,
          Comment.ofBounds comment.start comment.stop comment.isLine = .ok comment) ∧
        ∀ enums, ∃ trace, document.walk vocabulary enums = .ok trace ∧
          ∀ c ∈ trace.emitted ++ document.commentCandidates,
            c.start < c.stop ∧ c.priority = c.layer.priority ∧
              Candidate.ofBounds c.start c.stop c.layer.name c.priority = .ok c := by
  obtain ⟨document, hdocument, htext, hwithin⟩ := Document.exists_document h
  obtain ⟨result, hresult⟩ := exists_classify vocabulary hdocument hwithin
  refine ⟨result, hresult, fun region hregion => ?_, total_coverage result.regions, ?_, document,
    hdocument, fun comment _ => Comment.ofBounds_self comment, fun enums => ?_⟩
  · exact ⟨region.start_lt_stop, stop_le_length_of_classify hresult region hregion,
      Region.ofBounds_self region⟩
  · have htables := SourceText.ofTables_self (SourceText.ofText text)
    rwa [SourceText.chars_ofText, SourceText.octets_ofText] at htables
  · rw [← htext] at hwithin
    obtain ⟨trace, hwalk⟩ := Document.exists_walk_root vocabulary enums hwithin
    refine ⟨trace, hwalk, fun c hc => ?_⟩
    exact ⟨c.start_lt_stop, Document.standard_candidates hwalk c hc, Candidate.ofBounds_self c⟩

end SourceLayers
