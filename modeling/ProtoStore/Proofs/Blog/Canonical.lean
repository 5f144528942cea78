import ProtoStore.Proofs.Blog.Reloading

/-!
# Conversions are inverse

The record of a message gives the message back without its links, and with the identifier of an article
in its usual text; the record of that message is the same record again (`conversions_inverse`). So
nothing that a column holds is changed by a patch that does not name it.

* `Entity.canonical m` : the message that is given back;
* `reverts_canonical` : the record of `m` is read as `canonical m`;
* `converts_canonical` : it is the record of `canonical m`, too.
-/

namespace ProtoStore.Blog

open Domain Operations

/-- A message without its links, with its identifier in the usual text. -/
def Entity.canonical : (e : Entity) → e.Message → e.Message
  | article, (m : Article) => ({ m with
      id := (m.id.bind fun id => Uuid.canonical? id.value).map UuidText.mk
      writer := none, comments := [], tags := [] } : Article)
  | thread, (m : Thread) => ({ m with replies := [], topics := [] } : Thread)
  | digest, (m : Digest) => ({ m with entries := [], featured := [], hidden := [] } : Digest)
  | blogPost, m | author, m | comment, m | tag, m | reply, m => m

variable {e : Entity} {m : e.Message} {row : Record e}

/-! ## Optional columns -/

/-- Optional moments give their timestamps back. -/
theorem map_toTimestamp_of_mapM {field : String} {published : Option Timestamp}
    {column : Option Moment} (h : published.mapM (Convert.moment field) = .ok column) :
    column.map Moment.toTimestamp = published := by
  cases published with
  | none =>
    cases h
    rfl
  | some t =>
    change some <$> Convert.moment field t = .ok column at h
    cases ht : Convert.moment field t with
    | error failure =>
      rw [ht] at h
      cases h
    | ok moment =>
      rw [ht] at h
      obtain rfl := Except.ok.inj h
      rw [Option.map_some, Convert.toTimestamp_of_moment ht]

/-- Optional metadata is read from its encoded form. -/
theorem mapM_ofBytes_map_encode (field : String) {metadata : Option Metadata}
    (h : ∀ x ∈ metadata, x.Addressable) :
    (metadata.map Metadata.codec.encode).mapM (Convert.ofBytes Metadata.codec field) = .ok metadata := by
  cases metadata with
  | none => rfl
  | some x =>
    show some <$> Convert.ofBytes Metadata.codec field (Metadata.codec.encode x) = _
    rw [ofBytes_metadata field (h x rfl)]
    rfl

/-! ## Messages of records -/

theorem reverts_canonical_article {m : Article} {row : Record Entity.article}
    (ha : Entity.article.Addressable m) (h : Converts Entity.article m row) :
    Reverts Entity.article row (Entity.article.canonical m) := by
  obtain ⟨id, publishedAt, hid, hp, rfl⟩ := fillArticleRecord_ok h
  have identifier : id.map (fun u => (⟨u.text⟩ : UuidText)) =
      (m.id.bind fun id => Uuid.canonical? id.value).map UuidText.mk := by
    have text := Convert.map_text_of_uuid? hid
    rw [Option.bind_map] at text
    calc id.map (fun u => (⟨u.text⟩ : UuidText))
        = (id.map Uuid.text).map UuidText.mk := (Option.map_map UuidText.mk Uuid.text id).symm
      _ = (m.id.bind fun id => Uuid.canonical? id.value).map UuidText.mk := by rw [text]; rfl
  have published := map_toTimestamp_of_mapM hp
  have metadata := mapM_ofBytes_map_encode "meta" ha
  show fillArticle _ _ = _
  unfold fillArticle
  simp only [ofJson_texts, metadata, identifier, published, bind, Except.bind, pure, Except.pure]
  rfl

/-- The record of a message is read as the message in its canonical form. -/
theorem reverts_canonical (ha : e.Addressable m) (h : Converts e m row) :
    Reverts e row (e.canonical m) := by
  cases e with
  | article => exact reverts_canonical_article ha h
  | comment =>
    cases h
    show fillComment (fillCommentRecord (m : Comment) default) default = _
    unfold fillComment fillCommentRecord
    simp only [ofJson_texts, bind, Except.bind, pure, Except.pure]
    rfl
  | blogPost | author | tag | reply | thread | digest =>
    cases h
    rfl

/-- Records of messages hold no keys of other records. -/
theorem bare_of_converts (h : Converts e m row) : e.bare row = row := by
  cases e with
  | article =>
    obtain ⟨id, publishedAt, -, -, rfl⟩ := fillArticleRecord_ok h
    rfl
  | blogPost | author | comment | tag | reply | thread | digest =>
    cases h
    rfl

/-- The record of a message is that of its canonical form. -/
theorem converts_canonical (ha : e.Addressable m) (h : Converts e m row) :
    Converts e (e.canonical m) row := by
  have faithful : Faithful (table e) row := faithful_of_fillRecord ha h
  have again := converts_of_reverts faithful (reverts_canonical ha h)
  rwa [bare_of_converts h] at again

/-- A message that has a record is given back by it in its canonical form, and this has the same
record. -/
theorem conversions_inverse (e : Entity) (m : e.Message) (ha : e.Addressable m)
    (world last : World Kind Unit) (row : Record e)
    (h : toRecord Hooks.none e m world = (.ok row, last)) (later : World Kind Unit) :
    toMessage Hooks.none e row later = (.ok (e.canonical m), later) ∧
      toRecord Hooks.none e (e.canonical m) later = (.ok row, later) := by
  obtain ⟨converts, -⟩ := (toRecord_answers m row last).mp h
  have reverts := reverts_canonical ha converts
  have again := converts_canonical ha converts
  exact ⟨(toMessage_answers row _ later).mpr ⟨reverts, rfl⟩,
    (toRecord_answers (e.canonical m) row later).mpr ⟨again, rfl⟩⟩

/-- An article whose identifier is in capitals and braces, published within a leap second. -/
def leapArticle : Article := { (default : Article) with
  id := some ⟨"\x7bA987FBC9-4BED-3078-CF07-9141BA07C9F3\x7d"⟩, title := "On seconds"
  writer := some ⟨1, "Ada", none⟩, tags := [⟨"a", "A"⟩], publishedAt := some ⟨1483228799, 1999999999⟩
  status := -1, keywords := ["\"time\"", "", "\n\t\\ naïve 🕐"], meta_ := some ⟨"übung", -7⟩
  rating := some ⟨0x7ff8000000000001⟩ }

theorem conversions_inverse_leapArticle :
    let canonical : Article := { leapArticle with
      id := some ⟨"a987fbc9-4bed-3078-cf07-9141ba07c9f3"⟩, writer := none, tags := [] }
    let world : World Kind Unit := ⟨Store.empty fun _ => .nil, .unlimited, ()⟩
    Entity.article.Addressable leapArticle ∧ ∃ row,
      toRecord Hooks.none Entity.article leapArticle world = (.ok row, world) ∧
        toMessage Hooks.none Entity.article row world = (.ok canonical, world) ∧
        toRecord Hooks.none Entity.article canonical world = (.ok row, world) := by
  intro canonical world
  have addressable : Entity.article.Addressable leapArticle := by
    intro x hx
    cases hx
    show String.utf8ByteSize _ < _
    decide
  have same : Entity.article.canonical leapArticle = canonical := by decide +kernel
  obtain ⟨row, converts⟩ : ∃ row, Converts Entity.article leapArticle row := by
    have succeeds : (fillArticleRecord leapArticle default).toOption.isSome = true := by decide +kernel
    cases h : fillArticleRecord leapArticle default with
    | error failure =>
      rw [h] at succeeds
      cases succeeds
    | ok row => exact ⟨row, h⟩
  have stored := (toRecord_answers leapArticle row world).mpr ⟨converts, rfl⟩
  obtain ⟨back, again⟩ := conversions_inverse Entity.article leapArticle addressable world world row
    stored world
  rw [same] at back again
  exact ⟨addressable, row, stored, back, again⟩

end ProtoStore.Blog
