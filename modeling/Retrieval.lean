import Retrieval.Chunk.Record
import Retrieval.Inspect
import Retrieval.Main
import Retrieval.Proofs.Chunk.Table
import Retrieval.Proofs.Chunk.Words
import Retrieval.Proofs.Corpus.FailedInsert
import Retrieval.Proofs.Corpus.Widening
import Retrieval.Proofs.EdgeList.Clusters
import Retrieval.Proofs.EdgeList.Read
import Retrieval.Proofs.Graph.LabelHistory
import Retrieval.Proofs.Graph.Schema
import Retrieval.Proofs.Index.Batch
import Retrieval.Proofs.Index.Listing
import Retrieval.Proofs.Index.Loaded
import Retrieval.Proofs.Index.Mirror
import Retrieval.Proofs.Index.Refusal
import Retrieval.Proofs.Paragraphs
import Retrieval.Proofs.Preview
import Retrieval.Proofs.Records
import Retrieval.Proofs.Remote.Embedder
import Retrieval.Proofs.Window.Tiling
