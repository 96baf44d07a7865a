import AgentFeed.Main
import AgentFeed.Proofs.Coherence
import AgentFeed.Transcript.Memory
import AgentFeed.Uuid
import AgentFeed.Proofs.Places
import AgentFeed.Proofs.ToolCall
import AgentFeed.Proofs.ToolHistory
import AgentFeed.Proofs.Announcements
import AgentFeed.Proofs.Renaming
import AgentFeed.Proofs.Twins
import AgentFeed.Proofs.LiveTail
import AgentFeed.Proofs.SessionRun
import AgentFeed.Proofs.LiveReplay
import AgentFeed.Proofs.StoreLaws
import AgentFeed.Proofs.Conservation
import AgentFeed.Proofs.Opening
import AgentFeed.Proofs.OlderItems
import AgentFeed.Proofs.ReplaySplit
import AgentFeed.Proofs.ResetIsolation
import AgentFeed.Proofs.Interruption
import AgentFeed.Proofs.Reopening
import AgentFeed.Proofs.Alike
import AgentFeed.Proofs.ThreadIsolation
import AgentFeed.Proofs.SingleChange
import AgentFeed.Proofs.JsonRoundTrip
import AgentFeed.Proofs.TranscriptRoundTrip
import AgentFeed.Proofs.NestingLimit
import AgentFeed.Proofs.StreamedText
import AgentFeed.Proofs.CallPairing
import AgentFeed.Proofs.Reannouncement
import AgentFeed.Proofs.Echoes
import AgentFeed.Proofs.SettledCalls
import AgentFeed.Proofs.Prompts
import AgentFeed.Proofs.BatchPrefix
import AgentFeed.Proofs.FailedOperations
import AgentFeed.Proofs.ReasoningKeys
import AgentFeed.Proofs.StreamedArguments
import AgentFeed.Proofs.EmbeddedArguments
import AgentFeed.Proofs.Followers
import AgentFeed.Proofs.TranscriptReading
import AgentFeed.Proofs.ChunkMeaning
import AgentFeed.Proofs.WrittenCalls
import AgentFeed.Proofs.ToolLineGrammar
import AgentFeed.Proofs.WireDecoding
import AgentFeed.Proofs.ItemRecords
import AgentFeed.Proofs.TextForms
