import CodeRetrieval.Proofs.Data.Results
import CodeRetrieval.Settings

/-!
# Settings that were loaded

Values make settings only where the sizes of the funnel narrow.
-/

namespace CodeRetrieval.Settings

/-- The sizes of the funnel narrow in all settings that were loaded. -/
theorem narrows_of_load {env : Environment} {given : List (String × Data)} {s : Settings}
    (h : load env given = .ok s) :
    narrows s.hybridSize s.similarSize s.relevantSize = true := by
  rw [load] at h
  split at h
  · -- each setting is one step, and the check of the sizes comes last
    repeat obtain ⟨_, -, h⟩ := bind_eq_ok.mp h
    dsimp only at h
    split at h
    · rename_i hnarrows
      obtain rfl := Except.ok.inj h
      exact hnarrows
    · cases h
  · cases h

theorem narrows_iff {hybrid similar relevant : Int} :
    narrows hybrid similar relevant = true ↔ similar ≤ hybrid ∧
      relevant ≤ similar ∧ 1 ≤ relevant := by
  simp [narrows, and_assoc]

def defaults : Settings where
  proxyUrl := Setting.proxyUrl.default
  apiKey := Setting.apiKey.default
  embeddingModel := Setting.embeddingModel.default
  completionModel := Setting.completionModel.default
  batchSize := Embedding.defaultBatchSize
  concurrentBatches := Embedding.defaultConcurrentBatches
  hybridSize := Ranking.defaultHybridSize
  similarSize := Funnel.defaultSimilar
  relevantSize := Funnel.defaultRelevant
  judgeConcurrency := Setting.defaultJudgeConcurrency
  compressionEnabled := true
  compressionThreshold := Setting.defaultCompressionThreshold
  compressionCeiling := Setting.defaultCompressionCeiling
  compressionConcurrency := Setting.defaultCompressionConcurrency
  chunkingWorkers := Setting.defaultChunkingWorkers
  logLevel := Setting.logLevel.default
  logService := Setting.logService.default
  logFormat := Setting.logFormat.default
  logStream := Setting.logStream.default

/-- What the defaults say in words is read as what they stand for. -/
theorem load_nil : load [] [] = .ok defaults := rfl

end CodeRetrieval.Settings
