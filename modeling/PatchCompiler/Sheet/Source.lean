import PatchCompiler.Template.Basic

/-!
# Code of a program

The file that defines the functions of a program.
-/

namespace PatchCompiler.Sheet

def declared (path type name : String) : Piece :=
  .when (.positive (.path path))
    [.text ["\n  " ++ type ++ " "],
     .counted path [.text [name ++ "`i`"], .when (.not (.path "loop.last")) [.text [", "]]],
     .text [";"]]

/-- Makes pointers to the parts of one buffer, one for each channel. -/
def pointers (path name buffers : String) : Piece :=
  let first := "\n  float **const " ++ name ++ " = "
  .choose (.equals (.path path) 0)
    [.text [first ++ "NULL;"]]
    [.choose (.equals (.path path) 1)
       [.text [first ++ "&" ++ buffers ++ ";"]]
       [.text [first ++ "reinterpret_cast<float **>(hv_alloca(`" ++ path ++ "`*sizeof(float *)));"],
        .counted path [.text ["\n  " ++ name ++ "[`i`] = " ++ buffers ++ "+(`i`*n4);"]]]]

def uninterleaved : Piece :=
  .counted "signal.numInputBuffers"
    [.text ["\n    bIn[`i`*n4+j] = inputBuffers[`i`+`signal.numInputBuffers`*j];"]]

def interleaved : String :=
  "
  for (int i = 0; i < `signal.numOutputBuffers`; ++i) \x7b
    for (int j = 0; j < n4; ++j) \x7b
      outputBuffers[i+`signal.numOutputBuffers`*j] = bOut[i*n4+j];
    \x7d
  \x7d"

def constructed (arguments : String) : String :=
  ") \x7b
    // allocate aligned memory
    void *ptr = hv_malloc(sizeof(Heavy_`name`));
    // ensure non-null
    if (!ptr) return nullptr;
    // call constructor
    new(ptr) Heavy_`name`(" ++ arguments ++ ");\n    return Context(ptr);\n  \x7d\n"

def source : Template :=
  [.text ["`copyright`\n\n#include \"Heavy_`name`.hpp\"\n\n#include <new>\n",
     "#define Context(_c) static_cast<Heavy_`name` *>(_c)\n\n\n/*
 * C Functions
 */\n\nextern \"C\" \x7b
  HV_EXPORT HeavyContextInterface *hv_`name`_new(double sampleRate" ++
       constructed "sampleRate" ++ "
  HV_EXPORT HeavyContextInterface *hv_`name`_new_with_options(double sampleRate,
      int poolKb, int inQueueKb, int outQueueKb" ++
       constructed "sampleRate, poolKb, inQueueKb, outQueueKb" ++ "
  HV_EXPORT void hv_`name`_free(HeavyContextInterface *instance) \x7b
    // call destructor
    Context(instance)->~Heavy_`name`();
    // free memory
    hv_free(instance);
  \x7d\n\x7d // extern \"C\"\n\n\n\n"],
   .when (.any "table_data_list")
     [.text ["/*\n * Table Data\n */\n"], .for_ ["x"] (.name "table_data_list") [.text ["\n`x`"]]],
   .text ["\n\n\n\n/*
 * Class Functions
 */\n\nHeavy_`name`::Heavy_`name`(double sampleRate, int poolKb, int inQueueKb, int outQueueKb)
    : HeavyContext(sampleRate, poolKb, inQueueKb, outQueueKb) \x7b"],
   .for_ ["x"] (.name "init_list") [.text ["\n  numBytes += `x`"]],
   .text ["\n  "],
   .when (.contains "__hv_init" (.name "send_receive"))
     [.text ["
  // schedule a message to trigger all loadbangs via the __hv_init receiver
  scheduleMessageForReceiver(`send_receive.__hv_init.hash`, msg_initWithBang(HV_MESSAGE_ON_STACK(1), 0));"]],
   .text ["\n\x7d\n\nHeavy_`name`::~Heavy_`name`() \x7b"],
   .choose (.any "free_list")
     [.for_ ["x"] (.name "free_list") [.text ["\n  `x`"]]]
     [.text ["\n  // nothing to free"]],
   .text ["\n\x7d\n\nHvTable *Heavy_`name`::getTableForHash(hv_uint32_t tableHash) \x7b"],
   .choose (.any "send_table")
     [.text ["switch (tableHash) \x7b"],
      .for_ ["k", "v"] (.change .entries (.name "send_table"))
        [.text ["\n    case `v.hash`: return &hTable_`v.id`; // `v.display`"]],
      .text ["\n    default: return nullptr;\n  \x7d"]]
     [.text ["\n  return nullptr;"]],
   .text ["\n\x7d\n",
     "void Heavy_`name`::scheduleMessageForReceiver(hv_uint32_t receiverHash, HvMessage *m) \x7b
  switch (receiverHash) \x7b"],
   .for_ ["k", "v"] (.change .entries (.name "send_receive"))
     [.text ["\n    case `v.hash`: \x7b // `v.display`"],
      .for_ ["obj_id"] (.path "v.ids")
        [.text ["\n      mq_addMessageByTimestamp(&mq, m, 0, &cReceive_`obj_id`_sendMessage);"]],
      .text ["\n      break;\n    \x7d"]],
   .text ["
    default: return;
  \x7d\n\x7d\n\nint Heavy_`name`::getParameterInfo(int index, HvParameterInfo *info) \x7b
  if (info != nullptr) \x7b
    switch (index) \x7b"],
   .for_ ["v"] (.change .values (.change .open (.name "send_receive")))
     [.text ["\n      case "],
      .value (.operation .subtract (.path "loop.index") (.number 1)),
      .text [": \x7b\n        info->name = \"`v.display`\";\n        info->hash = `v.hash`;"],
      .choose (.operation .equal (.path "v.extern") (.text "param"))
        [.text ["
        info->type = HvParameterType::HV_PARAM_TYPE_PARAMETER_IN;
        info->minVal = `v.attributes.min`f;
        info->maxVal = `v.attributes.max`f;
        info->defaultVal = `v.attributes.default`f;"]]
        [.text ["
        info->type = HvParameterType::HV_PARAM_TYPE_EVENT_IN;
        info->minVal = 0.0f;
        info->maxVal = 0.0f;
        info->defaultVal = 0.0f;"]],
      .text ["\n        break;\n      \x7d"]],
   .text ["
      default: \x7b
        info->name = \"invalid parameter index\";
        info->hash = 0;
        info->type = HvParameterType::HV_PARAM_TYPE_PARAMETER_IN;
        info->minVal = 0.0f;
        info->maxVal = 0.0f;
        info->defaultVal = 0.0f;
        break;
      \x7d
    \x7d
  \x7d
  return "],
   .value (.length (.change .open (.name "send_receive"))),
   .text [";\n\x7d\n\n\n\n/*\n * Send Function Implementations\n */\n\n"],
   .for_ ["x"] (.name "impl_list")
     [.text ["\nvoid Heavy_`name`::`x`\n"], .when (.not (.path "loop.last")) []],
   .text ["\n\n\n\n/*
 * Context Process Implementation
 */\n\nint Heavy_`name`::process(float **inputBuffers, float **outputBuffers, int n) \x7b
  while (hLp_hasData(&inQueue)) \x7b
    hv_uint32_t numBytes = 0;
    ReceiverMessagePair *p = reinterpret_cast<ReceiverMessagePair *>(hLp_getReadBuffer(&inQueue, &numBytes));
    hv_assert(numBytes >= sizeof(ReceiverMessagePair));
    scheduleMessageForReceiver(p->receiverHash, &p->msg);
    hLp_consume(&inQueue);
  \x7d"],
   .choose (.or (.positive (.path "signal.numInputBuffers")) (.positive (.path "signal.numOutputBuffers")))
     [.text ["
  const int n4 = n & ~HV_N_SIMD_MASK; // ensure that the block size is a multiple of HV_N_SIMD\n
  // temporary signal vars"],
      declared "signal.numTemporaryBuffers.float" "hv_bufferf_t" "Bf",
      declared "signal.numTemporaryBuffers.integer" "hv_bufferi_t" "Bi",
      .text ["\n\n  // input and output vars"],
      declared "signal.numOutputBuffers" "hv_bufferf_t" "O",
      declared "signal.numInputBuffers" "hv_bufferf_t" "I",
      .text ["\n
  // declare and init the zero buffer
  hv_bufferf_t ZERO; __hv_zero_f(VOf(ZERO));\n
  hv_uint32_t nextBlock = blockStartTimestamp;
  for (int n = 0; n < n4; n += HV_N_SIMD) \x7b\n
    // process all of the messages for this block
    nextBlock += HV_N_SIMD;
    while (mq_hasMessageBefore(&mq, nextBlock)) \x7b
      MessageNode *const node = mq_peek(&mq);
      node->sendMessage(this, node->let, node->m);
      mq_pop(&mq);
    \x7d\n\n    "],
      .when (.positive (.path "signal.numInputBuffers"))
        [.text ["// load input buffers"],
         .counted "signal.numInputBuffers"
           [.text ["\n    __hv_load_f(inputBuffers[`i`]+n, VOf(I`i`));"]]],
      .text ["\n\n    "],
      .when (.positive (.path "signal.numOutputBuffers"))
        [.text ["// zero output buffers"],
         .counted "signal.numOutputBuffers"
           [.text ["\n    __hv_zero_f(VOf(O`i`));"]]],
      .text ["\n\n    // process all signal functions"],
      .for_ ["f"] (.name "process_list") [.text ["\n    `f`"]],
      .text ["\n\n    // save output vars to output buffer"],
      .choose (.positive (.path "signal.numOutputBuffers"))
        [.counted "signal.numOutputBuffers"
           [.text ["\n    __hv_store_f(outputBuffers[`i`]+n, VIf(O`i`));"]]]
        [.text ["\n    // no output channels"]],
      .text ["
  \x7d\n
  blockStartTimestamp = nextBlock;\n
  return n4; // return the number of frames processed"]]
     [.text ["\n  \n  hv_uint32_t nextBlock = blockStartTimestamp + n;
  while (mq_hasMessageBefore(&mq, nextBlock)) \x7b
    MessageNode *const node = mq_peek(&mq);
    node->sendMessage(this, node->let, node->m);
    mq_pop(&mq);
  \x7d\n
  blockStartTimestamp = nextBlock;
  return n;"]],
   .text ["\n\x7d\n",
     "int Heavy_`name`::processInline(float *inputBuffers, float *outputBuffers, int n4) \x7b
  hv_assert(!(n4 & HV_N_SIMD_MASK)); // ensure that n4 is a multiple of HV_N_SIMD\n
  // define the heavy input buffer for `signal.numInputBuffers` channel(s)"],
   pointers "signal.numInputBuffers" "bIn" "inputBuffers",
   .text ["\n\n  // define the heavy output buffer for `signal.numOutputBuffers` channel(s)"],
   pointers "signal.numOutputBuffers" "bOut" "outputBuffers",
   .text ["\n
  int n = process(bIn, bOut, n4);
  return n;\n\x7d\n",
     "int Heavy_`name`::processInlineInterleaved(float *inputBuffers, float *outputBuffers, int n4) \x7b
  hv_assert(n4 & ~HV_N_SIMD_MASK); // ensure that n4 is a multiple of HV_N_SIMD\n
  // define the heavy input buffer for `signal.numInputBuffers` channel(s), uninterleave"],
   .choose (.equals (.path "signal.numInputBuffers") 0)
     [.text ["\n  float *const bIn = NULL;"]]
     [.choose (.equals (.path "signal.numInputBuffers") 1)
        [.text ["\n  float *const bIn = inputBuffers;"]]
        [.choose (.equals (.path "signal.numInputBuffers") 2)
           [.text ["
  float *const bIn = reinterpret_cast<float *>(hv_alloca(2*n4*sizeof(float)));
  #if HV_SIMD_SSE || HV_SIMD_AVX
  for (int i = 0, j = 0; j < n4; j += 4, i += 8) \x7b
    __m128 a = _mm_load_ps(inputBuffers+i);                // LRLR
    __m128 b = _mm_load_ps(inputBuffers+4+i);              // LRLR
    __m128 x = _mm_shuffle_ps(a, b, _MM_SHUFFLE(2,0,2,0)); // LLLL
    __m128 y = _mm_shuffle_ps(a, b, _MM_SHUFFLE(3,1,3,1)); // RRRR
    _mm_store_ps(bIn+j, x);
    _mm_store_ps(bIn+n4+j, y);
  \x7d
  #elif HV_SIMD_NEON
  for (int i = 0, j = 0; j < n4; j += 4, i += 8) \x7b
    float32x4x2_t a = vld2q_f32(inputBuffers+i); // load and uninterleave
    vst1q_f32(bIn+j, a.val[0]);
    vst1q_f32(bIn+n4+j, a.val[1]);
  \x7d
  #else // HV_SIMD_NONE
  for (int j = 0; j < n4; ++j) \x7b"],
            uninterleaved,
            .text ["\n  \x7d\n  #endif"]]
           [.text ["
  float *const bIn = (float *) hv_alloca(`signal.numInputBuffers`*n4*sizeof(float));
  for (int j = 0; j < n4; ++j) \x7b"],
            uninterleaved,
            .text ["\n  \x7d"]]]],
   .text ["\n\n  // define the heavy output buffer for `signal.numOutputBuffers` channel(s)"],
   .choose (.equals (.path "signal.numOutputBuffers") 0)
     [.text ["\n  float *const bOut = NULL;"]]
     [.choose (.equals (.path "signal.numOutputBuffers") 1)
        [.text ["\n  float *const bOut = outputBuffers;"]]
        [.text ["
  float *const bOut = reinterpret_cast<float *>(hv_alloca(`signal.numOutputBuffers`*n4*sizeof(float)));"]]],
   .text ["\n\n  int n = processInline(bIn, bOut, n4);\n\n  "],
   .choose (.equals (.path "signal.numOutputBuffers") 2)
     [.text ["// interleave the heavy output into the output buffer
  #if HV_SIMD_AVX
  for (int i = 0, j = 0; j < n4; j += 8, i += 16) \x7b
    __m256 x = _mm256_load_ps(bOut+j);    // LLLLLLLL
    __m256 y = _mm256_load_ps(bOut+n4+j); // RRRRRRRR
    __m256 a = _mm256_unpacklo_ps(x, y);  // LRLRLRLR
    __m256 b = _mm256_unpackhi_ps(x, y);  // LRLRLRLR
    _mm256_store_ps(outputBuffers+i, a);
    _mm256_store_ps(outputBuffers+8+i, b);
  \x7d
  #elif HV_SIMD_SSE
  for (int i = 0, j = 0; j < n4; j += 4, i += 8) \x7b
    __m128 x = _mm_load_ps(bOut+j);    // LLLL
    __m128 y = _mm_load_ps(bOut+n4+j); // RRRR
    __m128 a = _mm_unpacklo_ps(x, y);  // LRLR
    __m128 b = _mm_unpackhi_ps(x, y);  // LRLR
    _mm_store_ps(outputBuffers+i, a);
    _mm_store_ps(outputBuffers+4+i, b);
  \x7d
  #elif HV_SIMD_NEON
  // https://community.arm.com/groups/processors/blog/2012/03/13/coding-for-neon--part-5-rearranging-vectors
  for (int i = 0, j = 0; j < n4; j += 4, i += 8) \x7b
    float32x4_t x = vld1q_f32(bOut+j);
    float32x4_t y = vld1q_f32(bOut+n4+j);
    float32x4x2_t z = \x7bx, y\x7d;
    vst2q_f32(outputBuffers+i, z); // interleave and store
  \x7d
  #else // HV_SIMD_NONE" ++ interleaved ++ "\n  #endif"]]
     [.when (.operation .greater (.path "signal.numOutputBuffers") (.number 2))
        [.text ["
  // interleave the heavy output into the output buffer" ++ interleaved]]],
   .text ["\n\n  return n;\n\x7d\n"]]

end PatchCompiler.Sheet
